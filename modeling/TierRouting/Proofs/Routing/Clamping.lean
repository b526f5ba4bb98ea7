import TierRouting.Policy

/-! Which rule of a budget lowers a tier, and to what. -/
namespace TierRouting

variable {b : Budget} {spend : Spend} {t ceiling : Tier} {rule : BudgetRule}

theorem Tier.clamp_of_lt (h : ceiling < t) : t.clamp ceiling = ceiling := by
  have hle : ¬ t ≤ ceiling := Nat.not_le.mpr h
  exact if_neg hle

namespace Budget

/-- It is known what was spent, and that is no less than the cap. -/
def Reached (cap spent : Option Float) : Prop :=
  ∃ c s, cap = some c ∧ spent = some s ∧ c ≤ s

theorem capReached_iff {cap spent : Option Float} :
    capReached cap spent = true ↔ Reached cap spent := by
  cases cap with
  | none => simp [capReached, Reached]
  | some c =>
    cases spent with
    | none => simp [capReached, Reached]
    | some s => simp [capReached, Reached]

def Triggers (b : Budget) (spend : Spend) : BudgetRule → Prop
  | .preferFree => b.preferFree = true
  | .dailyCapReached => Reached b.dailyCap spend.daily
  | .monthlyCapReached => Reached b.monthlyCap spend.monthly

instance (b : Budget) (spend : Spend) : DecidablePred (b.Triggers spend)
  | .preferFree => inferInstanceAs (Decidable (_ = true))
  | .dailyCapReached => decidable_of_iff _ capReached_iff
  | .monthlyCapReached => decidable_of_iff _ capReached_iff

theorem triggers_iff : b.Triggers spend rule ↔
    match rule with
    | .preferFree => b.preferFree = true
    | .dailyCapReached => capReached b.dailyCap spend.daily = true
    | .monthlyCapReached => capReached b.monthlyCap spend.monthly = true := by
  cases rule with
  | preferFree => exact Iff.rfl
  | dailyCapReached => exact capReached_iff.symm
  | monthlyCapReached => exact capReached_iff.symm

/-- The rule applies, and none of the rules before it does. -/
def FirstTriggered (b : Budget) (spend : Spend) (rule : BudgetRule) : Prop :=
  b.Triggers spend rule ∧ ∃ before after, BudgetRule.all = before ++ rule :: after ∧
    ∀ other ∈ before, ¬ b.Triggers spend other

theorem rule?_eq_find? : b.rule? spend = BudgetRule.all.find? (b.Triggers spend ·) := by
  by_cases hfree : b.preferFree = true
  · simp [rule?, BudgetRule.all, triggers_iff, hfree]
  · by_cases hday : capReached b.dailyCap spend.daily = true
    · simp [rule?, BudgetRule.all, triggers_iff, hfree, hday]
    · by_cases hmonth : capReached b.monthlyCap spend.monthly = true
      · simp [rule?, BudgetRule.all, triggers_iff, hfree, hday, hmonth]
      · simp [rule?, BudgetRule.all, triggers_iff, hfree, hday, hmonth]

theorem rule?_eq_some_iff : b.rule? spend = some rule ↔ b.FirstTriggered spend rule := by
  rw [rule?_eq_find?, List.find?_eq_some_iff_append]
  simp [FirstTriggered]

/-- A rule is reported just when it lowers the tier. -/
theorem apply_snd_eq_some_iff :
    (b.apply spend t).2 = some rule ↔ b.FirstTriggered spend rule ∧ .t1 < t := by
  rw [← rule?_eq_some_iff]
  cases hr : b.rule? spend with
  | none => simp [apply, hr]
  | some first =>
    by_cases ht : Tier.t1 < t
    · simp [apply, hr, Budget.ceiling, ht]
    · simp [apply, hr, Budget.ceiling, ht]

theorem apply_fst : (b.apply spend t).1 = if (b.apply spend t).2.isSome then .t1 else t := by
  cases hr : b.rule? spend with
  | none => simp [apply, hr]
  | some first =>
    by_cases ht : Tier.t1 < t
    · simp [apply, hr, Budget.ceiling, ht, Tier.clamp_of_lt ht]
    · simp [apply, hr, Budget.ceiling, ht]

end Budget
end TierRouting
