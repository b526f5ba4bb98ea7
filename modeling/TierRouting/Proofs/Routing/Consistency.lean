import TierRouting.Proofs.Routing.Clamping
import TierRouting.Routing.Router

/-! How the parts of a decision fit together, whichever way the router takes. -/
namespace TierRouting

variable {r : Router} {q : RouteRequest} {d e : RoutingDecision}

theorem adapt_tier (prompt : String) (t : Tier) : (adapt prompt t).tier = t := by
  cases t with
  | t0 => rfl
  | t1 => rfl
  | t2 => rfl
  | t3 => rfl
  | t4 => rfl

/-- Only a request that calls no model goes without a system prompt. -/
theorem adapt_systemPrompt_eq_none_iff (prompt : String) (t : Tier) :
    (adapt prompt t).systemPrompt = none ↔ t = .t0 := by
  cases t with
  | t0 => simp [adapt]
  | t1 => simp [adapt]
  | t2 => simp [adapt]
  | t3 => simp [adapt]
  | t4 => simp [adapt]

namespace Router

/-- The tier of the intent after the bias. -/
def biasedTier (r : Router) (q : RouteRequest) : Tier :=
  r.settings.bias.apply (classify q.message).intent.minimumTier

/-- A session's model counts before one that the message names. -/
def bypassReason (q : RouteRequest) : BypassReason :=
  if q.sessionOverride.isSome then .sessionOverride else .explicitRequest

/-- What a decision owes to the router and the request. -/
structure Consistent (r : Router) (q : RouteRequest) (d : RoutingDecision) : Prop where
  classification : d.classification = classify q.message
  bypassed_iff : d.bypassed = true ↔
    q.sessionOverride.isSome = true ∨ (classify q.message).intent = .explicit
  bypass_of_bypassed : d.bypassed = true → d.bypass = some (bypassReason q)
  tier_of_bypassed : d.bypassed = true → d.tier = .t3
  baseTier_of_bypassed : d.bypassed = true → d.baseTier = .t3
  clamp_of_bypassed : d.bypassed = true → d.clamp = none
  bypass_of_chosen : d.bypassed = false → d.bypass = none
  baseTier_of_chosen : d.bypassed = false → d.baseTier = (classify q.message).intent.minimumTier
  clamp_of_chosen : d.bypassed = false → ∀ rule, d.clamp = some rule ↔
    r.settings.budget.FirstTriggered q.spend rule ∧ .t1 < r.biasedTier q
  tier_of_chosen : d.bypassed = false → d.tier = if d.clamp.isSome then .t1 else r.biasedTier q
  model : d.model = q.sessionOverride.getD (r.resolve d.tier).1
  prompt : d.prompt = adapt q.systemPrompt d.tier
  prompt_tier : d.prompt.tier = d.tier
  prompt_absent_iff : d.prompt.systemPrompt = none ↔ d.tier = .t0
  context : d.context = q.context

theorem consistent_bypass {m : ModelRef} (hm : m = q.sessionOverride.getD (r.resolve .t3).1)
    (hq : q.sessionOverride.isSome = true ∨ (classify q.message).intent = .explicit) :
    Consistent r q (bypass q (classify q.message) (bypassReason q) m) where
  classification := rfl
  bypassed_iff := by simp [bypass, hq]
  bypass_of_bypassed _ := rfl
  tier_of_bypassed _ := rfl
  baseTier_of_bypassed _ := rfl
  clamp_of_bypassed _ := rfl
  bypass_of_chosen h := by simp [bypass] at h
  baseTier_of_chosen h := by simp [bypass] at h
  clamp_of_chosen h := by simp [bypass] at h
  tier_of_chosen h := by simp [bypass] at h
  model := hm
  prompt := rfl
  prompt_tier := adapt_tier ..
  prompt_absent_iff := adapt_systemPrompt_eq_none_iff ..
  context := rfl

theorem consistent_choose (hmodel : q.sessionOverride = none)
    (hintent : (classify q.message).intent ≠ .explicit) :
    Consistent r q (r.choose q (classify q.message)).1 where
  classification := rfl
  bypassed_iff := by simp [choose, hmodel, hintent]
  bypass_of_bypassed h := by simp [choose] at h
  tier_of_bypassed h := by simp [choose] at h
  baseTier_of_bypassed h := by simp [choose] at h
  clamp_of_bypassed h := by simp [choose] at h
  bypass_of_chosen _ := rfl
  baseTier_of_chosen _ := rfl
  clamp_of_chosen _ _ := Budget.apply_snd_eq_some_iff
  tier_of_chosen _ := Budget.apply_fst
  model := by
    rw [hmodel]
    rfl
  prompt := rfl
  prompt_tier := adapt_tier ..
  prompt_absent_iff := adapt_systemPrompt_eq_none_iff ..
  context := rfl

theorem consistent_outcome (r : Router) (q : RouteRequest) : Consistent r q (r.outcome q).1 := by
  cases hmodel : q.sessionOverride with
  | some m =>
    have hout : (r.outcome q).1 = bypass q (classify q.message) (bypassReason q) m := by
      simp [outcome, bypassReason, hmodel]
    rw [hout]
    exact consistent_bypass (by rw [hmodel]; rfl) (Or.inl (by rw [hmodel]; rfl))
  | none =>
    by_cases hintent : (classify q.message).intent = .explicit
    · have hout : (r.outcome q).1 =
          bypass q (classify q.message) (bypassReason q) (r.resolve bypassTier).1 := by
        simp [outcome, bypassReason, hmodel, hintent]
      rw [hout]
      exact consistent_bypass (by rw [hmodel]; rfl) (Or.inr hintent)
    · have hout : (r.outcome q).1 = (r.choose q (classify q.message)).1 := by
        simp [outcome, hmodel, hintent]
      rw [hout]
      exact consistent_choose hmodel hintent

/-- A decision has a reason for a bypass just when it is one. -/
theorem Consistent.bypassed_eq (hd : Consistent r q d) : d.bypassed = d.bypass.isSome := by
  cases hb : d.bypassed with
  | true => rw [hd.bypass_of_bypassed hb, Option.isSome_some]
  | false => rw [hd.bypass_of_chosen hb, Option.isSome_none]

theorem Consistent.unique (hd : Consistent r q d) (he : Consistent r q e) : d = e := by
  have hsame : d.bypassed = e.bypassed :=
    Bool.eq_iff_iff.mpr (hd.bypassed_iff.trans he.bypassed_iff.symm)
  have hchoice : d.bypass = e.bypass ∧ d.baseTier = e.baseTier ∧ d.clamp = e.clamp ∧
      d.tier = e.tier := by
    cases hb : d.bypassed with
    | true =>
      have hb' : e.bypassed = true := hsame ▸ hb
      refine ⟨?_, ?_, ?_, ?_⟩
      · rw [hd.bypass_of_bypassed hb, he.bypass_of_bypassed hb']
      · rw [hd.baseTier_of_bypassed hb, he.baseTier_of_bypassed hb']
      · rw [hd.clamp_of_bypassed hb, he.clamp_of_bypassed hb']
      · rw [hd.tier_of_bypassed hb, he.tier_of_bypassed hb']
    | false =>
      have hb' : e.bypassed = false := hsame ▸ hb
      have hclamp : d.clamp = e.clamp := Option.ext fun rule =>
        (hd.clamp_of_chosen hb rule).trans (he.clamp_of_chosen hb' rule).symm
      refine ⟨?_, ?_, hclamp, ?_⟩
      · rw [hd.bypass_of_chosen hb, he.bypass_of_chosen hb']
      · rw [hd.baseTier_of_chosen hb, he.baseTier_of_chosen hb']
      · rw [hd.tier_of_chosen hb, he.tier_of_chosen hb', hclamp]
  obtain ⟨hbypass, hbase, hclamp, htier⟩ := hchoice
  have hmodel : d.model = e.model := by rw [hd.model, he.model, htier]
  have hprompt : d.prompt = e.prompt := by rw [hd.prompt, he.prompt, htier]
  have hclass : d.classification = e.classification :=
    hd.classification.trans he.classification.symm
  have hcontext : d.context = e.context := hd.context.trans he.context.symm
  cases d
  cases e
  simp_all

/-- The conditions leave room for one decision only. -/
theorem consistent_iff : Consistent r q d ↔ d = (r.outcome q).1 := by
  constructor
  · exact fun h => h.unique (consistent_outcome r q)
  · rintro rfl
    exact consistent_outcome r q

theorem route_consistent (r : Router) (s : EventStore) (time : String) (q : RouteRequest) :
    Consistent r q (r.route s time q).1 :=
  consistent_outcome r q

end Router
end TierRouting
