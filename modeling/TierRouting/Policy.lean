import TierRouting.Tier

/-! How a bias and a budget move the tier of a message. -/
namespace TierRouting

/-- Towards cheaper models, towards better ones, or neither. -/
inductive Bias where
  | cost
  | balanced
  | quality
deriving DecidableEq

namespace Bias

def all : List Bias := [cost, balanced, quality]

def label : Bias → String
  | cost => "cost"
  | balanced => "balanced"
  | quality => "quality"

instance : ToString Bias := ⟨label⟩

def ofLabel? (s : String) : Option Bias := all.find? (·.label == s)

/-- Moves a tier by one step at most: never down to a tier below T1, never above T4. -/
def apply (b : Bias) (t : Tier) : Tier :=
  match b with
  | cost => if 1 < t.index then (Tier.ofIndex? (t.index - 1)).getD t else t
  | balanced => t
  | quality => if t.index < 4 then (Tier.ofIndex? (t.index + 1)).getD t else t

end Bias

/-- What has been spent already; an absent sum leaves its cap unchecked. -/
structure Spend where
  daily : Option Float := none
  monthly : Option Float := none

/-- Limits on what may be spent, in dollars. -/
structure Budget where
  dailyCap : Option Float := none
  monthlyCap : Option Float := none
  preferFree : Bool := false

/-- The rule by which a budget lowers a tier. -/
inductive BudgetRule where
  | preferFree
  | dailyCapReached
  | monthlyCapReached
deriving DecidableEq

namespace BudgetRule

def all : List BudgetRule := [preferFree, dailyCapReached, monthlyCapReached]

def label : BudgetRule → String
  | preferFree => "prefer_free"
  | dailyCapReached => "daily_cap_reached"
  | monthlyCapReached => "monthly_cap_reached"

def ofLabel? (s : String) : Option BudgetRule := all.find? (·.label == s)

instance : ToString BudgetRule where
  toString
    | preferFree => "prefer free tiers"
    | dailyCapReached => "daily cap reached"
    | monthlyCapReached => "monthly cap reached"

end BudgetRule

/-- A cap counts only against a known sum, and is reached when the sum equals it. -/
def capReached (cap spent : Option Float) : Bool :=
  match cap, spent with
  | some cap, some spent => cap ≤ spent
  | _, _ => false

namespace Budget

/-- The highest tier once a rule applies. -/
def ceiling : Tier := .t1

/-- The first rule that applies. -/
def rule? (b : Budget) (s : Spend) : Option BudgetRule :=
  if b.preferFree then some .preferFree
  else if capReached b.dailyCap s.daily then some .dailyCapReached
  else if capReached b.monthlyCap s.monthly then some .monthlyCapReached
  else none

/-- The tier under the budget, and the rule that lowered it, if one did. -/
def apply (b : Budget) (s : Spend) (t : Tier) : Tier × Option BudgetRule :=
  match b.rule? s with
  | some rule => if ceiling < t then (t.clamp ceiling, some rule) else (t, none)
  | none => (t, none)

end Budget

end TierRouting
