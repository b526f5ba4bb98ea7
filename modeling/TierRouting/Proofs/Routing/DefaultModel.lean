import TierRouting.Proofs.Routing.Consistency

/-! What becomes of a router that is given a malformed text for its default model. -/
namespace TierRouting

variable {r : Router} {q : RouteRequest} {text : String} {t : Tier} {d : RoutingDecision}

theorem Bias.apply_eq_t0_iff {b : Bias} : b.apply t = .t0 ↔ b ≠ .quality ∧ t = .t0 := by
  cases b with
  | cost => cases t <;> decide
  | balanced => cases t <;> decide
  | quality => cases t <;> decide

/-- The decision with the model of last resort in place of the default one, which only the lowest
tier has. -/
def RoutingDecision.withoutDefault (d : RoutingDecision) : RoutingDecision :=
  if d.tier = .t0 then { d with model := .fallback } else d

namespace Router

def withoutDefault (r : Router) : Router := { r with defaultModel := none }

theorem withDefaultModel_of_malformed (h : ModelRef.parse? text = none) :
    r.withDefaultModel text = (r.withoutDefault, [.malformedDefault text]) := by
  simp [withDefaultModel, withoutDefault, h]

/-- The tiers that have a built-in model never come to the default one. -/
theorem resolve_withoutDefault (r : Router) (t : Tier) :
    r.withoutDefault.resolve t = if t = .t0 then (.fallback, []) else r.resolve t := by
  cases t with
  | t0 => rfl
  | t1 => rfl
  | t2 => rfl
  | t3 => rfl
  | t4 => rfl

theorem resolve_t0 (r : Router) : r.resolve .t0 = (r.defaultModel.getD .fallback, []) := by
  simp [resolve, standingModel, Config.TierModels.get?, Tier.defaultModel?]

theorem choose_withoutDefault (r : Router) (q : RouteRequest) (c : Classification) :
    (r.withoutDefault.choose q c).1 = (r.choose q c).1.withoutDefault := by
  have hmodel : (r.withoutDefault.choose q c).1 = { (r.choose q c).1 with
      model := (r.withoutDefault.resolve (r.choose q c).1.tier).1 } := rfl
  rw [hmodel, resolve_withoutDefault, RoutingDecision.withoutDefault]
  split
  · rfl
  · rfl

theorem outcome_withoutDefault (r : Router) (q : RouteRequest) :
    (r.withoutDefault.outcome q).1 = (r.outcome q).1.withoutDefault := by
  cases hmodel : q.sessionOverride with
  | some m => simp [outcome, hmodel, bypass, RoutingDecision.withoutDefault, bypassTier]
  | none =>
    by_cases hintent : (classify q.message).intent = .explicit
    · simp [outcome, hmodel, hintent, bypass, RoutingDecision.withoutDefault, bypassTier,
        resolve_withoutDefault]
    · simp [outcome, hmodel, hintent, choose_withoutDefault]

/-- Decisions that pass by the classification are not at the lowest tier. -/
theorem chosen_of_t0 (h : (r.outcome q).1.tier = .t0) : (r.outcome q).1.bypassed = false := by
  cases hb : (r.outcome q).1.bypassed with
  | false => rfl
  | true => exact absurd (((consistent_outcome r q).tier_of_bypassed hb).symm.trans h) nofun

/-- A request that ends at the lowest tier is given the default model. -/
theorem model_of_t0 (h : (r.outcome q).1.tier = .t0) :
    (r.outcome q).1.model = r.defaultModel.getD .fallback := by
  have hd := consistent_outcome r q
  have hchosen := chosen_of_t0 h
  have hq : q.sessionOverride = none := by
    cases hmodel : q.sessionOverride with
    | none => rfl
    | some m => simp [hd.bypassed_iff.mpr (.inl (by simp [hmodel]))] at hchosen
  rw [hd.model, h, hq, resolve_t0]
  rfl

/-- An empty message is at the lowest tier, where no budget can lower it. -/
theorem tier_of_empty (hbias : r.settings.bias ≠ .quality) :
    (r.outcome { message := "" }).1.tier = .t0 := by
  have hd := consistent_outcome r { message := "" }
  have hintent : (classify "").intent = .trivial := by decide +kernel
  have hchosen : (r.outcome { message := "" }).1.bypassed = false := by
    rw [Bool.eq_false_iff]
    intro hb
    rcases hd.bypassed_iff.mp hb with hq | hexplicit
    · contradiction
    · exact absurd (hintent.symm.trans hexplicit) nofun
  have hbiased : r.biasedTier { message := "" } = .t0 := by
    rw [biasedTier, hintent]
    exact Bias.apply_eq_t0_iff.mpr ⟨hbias, rfl⟩
  have htier := hd.tier_of_chosen hchosen
  cases hclamp : (r.outcome { message := "" }).1.clamp with
  | none => rw [htier, hclamp, hbiased]; rfl
  | some rule =>
    have hlt := ((hd.clamp_of_chosen hchosen rule).mp hclamp).2
    rw [hbiased] at hlt
    exact absurd hlt (by decide)

/-- Only the bias towards quality keeps every request off the lowest tier. -/
theorem exists_outcome_t0_iff : (∃ q, (r.outcome q).1.tier = .t0) ↔ r.settings.bias ≠ .quality := by
  constructor
  · rintro ⟨q, hq⟩ hbias
    have htier := (consistent_outcome r q).tier_of_chosen (chosen_of_t0 hq)
    rw [hq] at htier
    split at htier
    · contradiction
    · exact (Bias.apply_eq_t0_iff.mp htier.symm).1 hbias
  · intro hbias
    exact ⟨_, tier_of_empty hbias⟩

/-- A decision is the same without the default model where it does not come to it, or where the
default model is the one of last resort anyway. -/
theorem withoutDefault_outcome_eq_iff : (r.outcome q).1.withoutDefault = (r.outcome q).1 ↔
    ((r.outcome q).1.tier = .t0 → r.defaultModel.getD .fallback = .fallback) := by
  rw [RoutingDecision.withoutDefault]
  split
  · next ht =>
    rw [← model_of_t0 ht]
    constructor
    · intro he _
      exact (congrArg RoutingDecision.model he).symm
    · intro hm
      rw [← hm ht]
  · next ht => exact iff_of_true rfl fun h => absurd h ht

theorem forall_route_withoutDefault_iff :
    (∀ s time q, (r.withoutDefault.route s time q).1 = (r.route s time q).1) ↔
      r.settings.bias = .quality ∨ r.defaultModel.getD .fallback = .fallback := by
  have hroute : ∀ s time q, (r.withoutDefault.route s time q).1 =
      (r.outcome q).1.withoutDefault := fun _ _ q => outcome_withoutDefault r q
  have hsame : ∀ s time q, (r.route s time q).1 = (r.outcome q).1 := fun _ _ _ => rfl
  simp only [hroute, hsame, withoutDefault_outcome_eq_iff]
  constructor
  · intro h
    by_cases hbias : r.settings.bias = .quality
    · exact .inl hbias
    · obtain ⟨q, hq⟩ := exists_outcome_t0_iff.mpr hbias
      exact .inr (h {} "" q hq)
  · rintro (hbias | hfallback) _ _ q ht
    · exact absurd hbias (exists_outcome_t0_iff.mp ⟨q, ht⟩)
    · exact hfallback

theorem forall_resolve_withoutDefault_iff :
    (∀ t, r.withoutDefault.resolve t = r.resolve t) ↔
      r.defaultModel.getD .fallback = .fallback := by
  simp only [resolve_withoutDefault]
  constructor
  · intro h
    have hlowest := h .t0
    rw [if_pos rfl, resolve_t0] at hlowest
    exact (congrArg Prod.fst hlowest).symm
  · intro h t
    split
    · next ht => rw [ht, resolve_t0, h]
    · rfl

/-- A malformed text is reported once, and the default model is lost with it. The lowest tier falls
back on the model of last resort, and no other part of a decision changes. So nothing changes just
when that was the model before, or for decisions when the bias keeps them off the lowest tier. -/
theorem default_model_lost (r : Router) (h : ModelRef.parse? text = none) :
    (r.withDefaultModel text).2 = [.malformedDefault text] ∧
      (∀ t, (r.withDefaultModel text).1.resolve t =
        if t = .t0 then (.fallback, []) else r.resolve t) ∧
      (∀ s time q, ((r.withDefaultModel text).1.route s time q).1 =
        (r.route s time q).1.withoutDefault) ∧
      ((∀ t, (r.withDefaultModel text).1.resolve t = r.resolve t) ↔
        r.defaultModel.getD .fallback = .fallback) ∧
      ((∀ s time q, ((r.withDefaultModel text).1.route s time q).1 = (r.route s time q).1) ↔
        r.settings.bias = .quality ∨ r.defaultModel.getD .fallback = .fallback) := by
  rw [withDefaultModel_of_malformed h]
  refine ⟨rfl, resolve_withoutDefault r, ?_, ?_, ?_⟩
  · intro s time q
    exact outcome_withoutDefault r q
  · exact forall_resolve_withoutDefault_iff
  · exact forall_route_withoutDefault_iff

/-- A router whose settings name a default model. -/
def settled : Router := (ofSettings { providers := { defaultModel := "openai/gpt-4o" } }).1

theorem default_model_lost_settled :
    ModelRef.parse? "ollama/" = none ∧ (settled.resolve .t0).1 = ⟨"openai", "gpt-4o"⟩ ∧
      (settled.withDefaultModel "ollama/").1.resolve .t0 = (.fallback, []) := by
  have hparse : ModelRef.parse? "ollama/" = none := by decide
  obtain ⟨-, hresolve, -⟩ := default_model_lost settled hparse
  exact ⟨hparse, by decide, hresolve .t0⟩

/-- The text `ollama/` takes the default model away. -/
theorem not_forall_malformed_default_ignored :
    ¬ ∀ (r : Router) (text : String), ModelRef.parse? text = none →
      (∀ t, ((r.withDefaultModel text).1.resolve t).1 = (r.resolve t).1) ∧
        ∀ s time q, ((r.withDefaultModel text).1.route s time q).1 = (r.route s time q).1 := by
  intro h
  obtain ⟨hresolve, -⟩ := h settled "ollama/" (by decide)
  exact absurd (hresolve .t0) (by decide)

end Router
end TierRouting
