import TierRouting.Proofs.Routing.Consistency

/-! What is left of a decision when the budget and the sums spent are different ones. -/
namespace TierRouting

variable {r : Router} {q : RouteRequest} {b b' : Budget} {s s' : Spend} {d e : RoutingDecision}
  {t : Tier}

theorem Tier.le_of_lt {t u : Tier} (h : t < u) : t ≤ u := Nat.le_of_lt h

theorem Tier.not_lt {t u : Tier} : ¬ t < u ↔ u ≤ t := Nat.not_lt

def RouteRequest.withSpend (q : RouteRequest) (s : Spend) : RouteRequest := { q with spend := s }

namespace Router

def withBudget (r : Router) (b : Budget) : Router :=
  { r with settings := { r.settings with budget := b } }

/-- No budget has a say: the model is fixed, or the tier is one of the free ones anyway. -/
def Exempt (r : Router) (q : RouteRequest) (d : RoutingDecision) : Prop :=
  d.bypassed = true ∨ r.biasedTier q ≤ .t1

/-- The tier is the one that the bias chose, or a rule of the budget lowered it to the highest
free one. -/
def KeptOrClamped (r : Router) (q : RouteRequest) (d : RoutingDecision) : Prop :=
  d.clamp = none ∧ d.tier = r.biasedTier q ∨ d.clamp.isSome = true ∧ d.tier = .t1

/-- How two decisions compare that were made under different budgets. -/
structure BudgetApart (r : Router) (q : RouteRequest) (d e : RoutingDecision) : Prop where
  classification : d.classification = e.classification
  baseTier : d.baseTier = e.baseTier
  bypassed : d.bypassed = e.bypassed
  bypass : d.bypass = e.bypass
  context : d.context = e.context
  eq_of_exempt : r.Exempt q d → d = e
  left_tier : ¬ r.Exempt q d → r.KeptOrClamped q d
  right_tier : ¬ r.Exempt q d → r.KeptOrClamped q e
  eq_of_kept : d.clamp = none → e.clamp = none → d = e
  eq_of_clamped : d.clamp.isSome = true → e.clamp.isSome = true → { d with clamp := e.clamp } = e
  left_le : d.bypassed = false → d.tier ≤ r.biasedTier q
  right_le : e.bypassed = false → e.tier ≤ r.biasedTier q

theorem Consistent.not_bypassed_of_clamp (hd : Consistent r q d) (h : d.clamp.isSome = true) :
    d.bypassed = false := by
  cases hb : d.bypassed with
  | false => rfl
  | true => simp [hd.clamp_of_bypassed hb] at h

theorem Consistent.lt_of_clamp (hd : Consistent r q d) (h : d.clamp.isSome = true) :
    .t1 < r.biasedTier q := by
  obtain ⟨rule, hrule⟩ := Option.isSome_iff_exists.mp h
  exact ((hd.clamp_of_chosen (hd.not_bypassed_of_clamp h) rule).mp hrule).2

theorem Consistent.clamp_of_exempt (hd : Consistent r q d) (h : r.Exempt q d) :
    d.clamp = none := by
  rw [← Option.not_isSome_iff_eq_none]
  intro hclamp
  rcases h with hb | hle
  · exact Bool.noConfusion ((hd.not_bypassed_of_clamp hclamp).symm.trans hb)
  · exact Tier.not_lt.mpr hle (hd.lt_of_clamp hclamp)

theorem Consistent.keptOrClamped (hd : Consistent r q d) (hb : d.bypassed = false) :
    r.KeptOrClamped q d := by
  have htier := hd.tier_of_chosen hb
  cases hc : d.clamp with
  | none => exact Or.inl ⟨hc, by simpa [hc] using htier⟩
  | some rule => exact Or.inr ⟨by simp [hc], by simpa [hc] using htier⟩

theorem Consistent.tier_le (hd : Consistent r q d) (hb : d.bypassed = false) :
    d.tier ≤ r.biasedTier q := by
  rcases hd.keptOrClamped hb with ⟨-, htier⟩ | ⟨hclamp, htier⟩
  · rw [htier]
    exact Nat.le_refl _
  · rw [htier]
    exact Tier.le_of_lt (hd.lt_of_clamp hclamp)

section

variable (hd : Consistent (r.withBudget b) (q.withSpend s) d)
  (he : Consistent (r.withBudget b') (q.withSpend s') e)
include hd he

theorem bypassed_eq_of_budgets : d.bypassed = e.bypassed :=
  Bool.eq_iff_iff.mpr (hd.bypassed_iff.trans he.bypassed_iff.symm)

theorem bypass_eq_of_budgets : d.bypass = e.bypass := by
  have hsame := bypassed_eq_of_budgets hd he
  cases hb : d.bypassed with
  | true =>
    rw [hd.bypass_of_bypassed hb, he.bypass_of_bypassed (hsame ▸ hb)]
    rfl
  | false => rw [hd.bypass_of_chosen hb, he.bypass_of_chosen (hsame ▸ hb)]

theorem baseTier_eq_of_budgets : d.baseTier = e.baseTier := by
  have hsame := bypassed_eq_of_budgets hd he
  cases hb : d.bypassed with
  | true => rw [hd.baseTier_of_bypassed hb, he.baseTier_of_bypassed (hsame ▸ hb)]
  | false =>
    rw [hd.baseTier_of_chosen hb, he.baseTier_of_chosen (hsame ▸ hb)]
    rfl

/-- The budget works through the tier alone: with the tier every other part but the rule is
settled. -/
theorem eq_but_clamp_of_tier (htier : d.tier = e.tier) : { d with clamp := e.clamp } = e := by
  have hclass : d.classification = e.classification :=
    hd.classification.trans he.classification.symm
  have hcontext : d.context = e.context := hd.context.trans he.context.symm
  have hbypassed := bypassed_eq_of_budgets hd he
  have hbypass := bypass_eq_of_budgets hd he
  have hbase := baseTier_eq_of_budgets hd he
  have hmodel : d.model = e.model := by
    rw [hd.model, he.model, htier]
    rfl
  have hprompt : d.prompt = e.prompt := by
    rw [hd.prompt, he.prompt, htier]
    rfl
  cases d
  cases e
  simp_all

theorem eq_of_same_clamp (htier : d.tier = e.tier) (hclamp : d.clamp = e.clamp) : d = e := by
  rw [← eq_but_clamp_of_tier hd he htier, ← hclamp]

theorem eq_of_kept (hdk : d.clamp = none) (hek : e.clamp = none) : d = e := by
  have hsame := bypassed_eq_of_budgets hd he
  refine eq_of_same_clamp hd he ?_ (hdk.trans hek.symm)
  cases hb : d.bypassed with
  | true => rw [hd.tier_of_bypassed hb, he.tier_of_bypassed (hsame ▸ hb)]
  | false =>
    rw [hd.tier_of_chosen hb, he.tier_of_chosen (hsame ▸ hb), hdk, hek]
    rfl

theorem eq_of_clamped (hdc : d.clamp.isSome = true) (hec : e.clamp.isSome = true) :
    { d with clamp := e.clamp } = e := by
  refine eq_but_clamp_of_tier hd he ?_
  rw [hd.tier_of_chosen (hd.not_bypassed_of_clamp hdc),
    he.tier_of_chosen (he.not_bypassed_of_clamp hec), if_pos hdc, if_pos hec]

theorem budgetApart : BudgetApart r q d e where
  classification := hd.classification.trans he.classification.symm
  baseTier := baseTier_eq_of_budgets hd he
  bypassed := bypassed_eq_of_budgets hd he
  bypass := bypass_eq_of_budgets hd he
  context := hd.context.trans he.context.symm
  eq_of_exempt h := eq_of_kept hd he (hd.clamp_of_exempt h)
    (he.clamp_of_exempt (h.imp_left fun hb => (bypassed_eq_of_budgets hd he).symm.trans hb))
  left_tier h := hd.keptOrClamped (Bool.eq_false_iff.mpr fun hb => h (Or.inl hb))
  right_tier h := he.keptOrClamped
    (Bool.eq_false_iff.mpr fun hb => h (Or.inl ((bypassed_eq_of_budgets hd he).trans hb)))
  eq_of_kept := eq_of_kept hd he
  eq_of_clamped := eq_of_clamped hd he
  left_le := hd.tier_le
  right_le := he.tier_le

end

theorem route_budgetApart (r : Router) (q : RouteRequest) (b b' : Budget) (s s' : Spend)
    (events events' : EventStore) (time time' : String) :
    BudgetApart r q ((r.withBudget b).route events time (q.withSpend s)).1
      ((r.withBudget b').route events' time' (q.withSpend s')).1 :=
  budgetApart (consistent_outcome _ _) (consistent_outcome _ _)

end Router
end TierRouting
