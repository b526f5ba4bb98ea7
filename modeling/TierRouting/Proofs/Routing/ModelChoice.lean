import Mathlib.Data.List.Induction
import TierRouting.Proofs.Routing.Consistency
import TierRouting.Proofs.Routing.ModelReferences

/-! Where the model of a tier comes from, and that it is one that a text can name. -/
namespace TierRouting

variable {r : Router} {q : RouteRequest} {u : Tier} {m : ModelRef}

namespace Config

/-- The models without the one of a tier. -/
def TierModels.without (m : TierModels) : Tier → TierModels
  | .t0 => m
  | .t1 => { m with t1 := none }
  | .t2 => { m with t2 := none }
  | .t3 => { m with t3 := none }
  | .t4 => { m with t4 := none }

theorem TierModels.get?_without (m : TierModels) (u t : Tier) :
    (m.without u).get? t = if t = u then none else m.get? t := by
  cases u with
  | t0 => cases t <;> rfl
  | t1 => cases t <;> rfl
  | t2 => cases t <;> rfl
  | t3 => cases t <;> rfl
  | t4 => cases t <;> rfl

def RoutingSettings.withoutModel (s : RoutingSettings) (u : Tier) : RoutingSettings :=
  { s with tiers := s.tiers.without u }

end Config

/-- The first of several sources that has a model. -/
def FirstAvailable (sources : List (Option ModelRef)) (m : ModelRef) : Prop :=
  ∃ before after, sources = before ++ some m :: after ∧ ∀ source ∈ before, source = none

theorem FirstAvailable.mem {sources : List (Option ModelRef)} (h : FirstAvailable sources m) :
    some m ∈ sources := by
  obtain ⟨before, after, rfl, -⟩ := h
  exact List.mem_append_right before List.mem_cons_self

/-- The sources of a tier's model for the last of the texts that were given for a default. -/
def modelSources (s : Config.RoutingSettings) (texts : List String) (t : Tier) :
    List (Option ModelRef) :=
  [(s.tiers.get? t).bind ModelRef.parse?, t.defaultModel?, texts.getLast?.bind ModelRef.parse?,
    some .fallback]

theorem ModelRef.WellFormed.parse?_toString (hm : m.WellFormed) :
    ModelRef.parse? (toString m) = some m :=
  parse?_of_spells hm (spells_toString m)

theorem ModelRef.wellFormed_of_parse? {text : String} (h : ModelRef.parse? text = some m) :
    m.WellFormed :=
  (spells_of_parse? h).1

theorem Tier.wellFormed_defaultModel? (t : Tier) : ∀ m ∈ t.defaultModel?, m.WellFormed := by
  have hreads : ∀ m ∈ t.defaultModel?, ModelRef.parse? (toString m) = some m := by
    cases t with
    | t0 => decide
    | t1 => decide
    | t2 => decide
    | t3 => decide
    | t4 => decide
  exact fun m hm => ModelRef.wellFormed_of_parse? (hreads m hm)

theorem ModelRef.wellFormed_fallback : ModelRef.fallback.WellFormed := by
  have hreads : ModelRef.parse? (toString ModelRef.fallback) = some ModelRef.fallback := by decide
  exact wellFormed_of_parse? hreads

namespace Router

/-- A router to which texts were given for its default model, one after another. -/
def built (s : Config.RoutingSettings) (endpoints : List (String × String)) (log : Option Nat)
    (texts : List String) : Router :=
  texts.foldl (fun r text => (r.withDefaultModel text).1) ⟨s, none, endpoints, log⟩

/-- Only the last text counts, also where it is malformed. -/
theorem built_eq (s : Config.RoutingSettings) (endpoints : List (String × String))
    (log : Option Nat) (texts : List String) :
    built s endpoints log texts =
      ⟨s, texts.getLast?.bind ModelRef.parse?, endpoints, log⟩ := by
  induction texts using List.reverseRecOn with
  | nil => rfl
  | append_singleton texts text ih =>
    rw [built] at ih
    rw [built, List.foldl_append, ih, List.getLast?_concat]
    rfl

theorem resolve_fst (r : Router) (t : Tier) : (r.resolve t).1 =
    (((r.settings.tiers.get? t).bind ModelRef.parse?).or
      (t.defaultModel?.or r.defaultModel)).getD .fallback := by
  unfold resolve
  cases htext : r.settings.tiers.get? t with
  | none => rfl
  | some text => cases hm : ModelRef.parse? text <;> simp [hm, standingModel]

/-- A chain of choices comes to the first one that there is. -/
theorem firstAvailable_getD (a b c : Option ModelRef) (m : ModelRef) :
    FirstAvailable [a, b, c, some m] ((a.or (b.or c)).getD m) := by
  have hfound : [a, b, c, some m].findSome? id = some ((a.or (b.or c)).getD m) := by
    cases a <;> cases b <;> cases c <;> rfl
  obtain ⟨before, source, after, hsources, hsource, hnone⟩ :=
    List.findSome?_eq_some_iff.mp hfound
  obtain rfl : source = some _ := hsource
  exact ⟨before, after, hsources, hnone⟩

theorem wellFormed_resolve (hdefault : ∀ m ∈ r.defaultModel, m.WellFormed) (t : Tier) :
    (r.resolve t).1.WellFormed := by
  have hsource := (firstAvailable_getD ((r.settings.tiers.get? t).bind ModelRef.parse?)
    t.defaultModel? r.defaultModel .fallback).mem
  rw [← resolve_fst] at hsource
  simp only [List.mem_cons, List.not_mem_nil, or_false] at hsource
  rcases hsource with hnamed | hbuiltIn | hglobal | hlast
  · obtain ⟨text, -, hparse⟩ := Option.bind_eq_some_iff.mp hnamed.symm
    exact ModelRef.wellFormed_of_parse? hparse
  · exact t.wellFormed_defaultModel? _ hbuiltIn.symm
  · exact hdefault _ hglobal.symm
  · rw [Option.some.inj hlast]
    exact ModelRef.wellFormed_fallback

theorem wellFormed_resolve_built (s : Config.RoutingSettings)
    (endpoints : List (String × String)) (log : Option Nat) (texts : List String) (t : Tier) :
    ((built s endpoints log texts).resolve t).1.WellFormed := by
  refine wellFormed_resolve (fun m hm => ?_) t
  rw [built_eq] at hm
  obtain ⟨text, -, hparse⟩ := Option.bind_eq_some_iff.mp hm
  exact ModelRef.wellFormed_of_parse? hparse

theorem model_route (hq : q.sessionOverride = none) {store : EventStore} {time : String} :
    (r.route store time q).1.model = (r.resolve (r.route store time q).1.tier).1 := by
  rw [(route_consistent r store time q).model, hq, Option.getD_none]

/-- The router as it is where nothing is set for a tier. -/
def withoutModel (r : Router) (u : Tier) : Router :=
  { r with settings := r.settings.withoutModel u }

theorem built_withoutModel (s : Config.RoutingSettings) (endpoints : List (String × String))
    (log : Option Nat) (texts : List String) (u : Tier) :
    built (s.withoutModel u) endpoints log texts =
      (built s endpoints log texts).withoutModel u := by
  rw [built_eq, built_eq]
  rfl

section Malformed

variable (hmalformed : (r.settings.tiers.get? u).bind ModelRef.parse? = none)
include hmalformed

theorem resolve_withoutModel (t : Tier) :
    ((r.withoutModel u).resolve t).1 = (r.resolve t).1 := by
  have htiers : ((r.withoutModel u).settings.tiers.get? t).bind ModelRef.parse? =
      (r.settings.tiers.get? t).bind ModelRef.parse? := by
    have hget := r.settings.tiers.get?_without u t
    by_cases h : t = u
    · rw [if_pos h] at hget
      rw [h] at hget ⊢
      exact (congrArg (·.bind ModelRef.parse?) hget).trans hmalformed.symm
    · rw [if_neg h] at hget
      exact congrArg (·.bind ModelRef.parse?) hget
  rw [resolve_fst, resolve_fst, htiers]
  rfl

theorem outcome_withoutModel (q : RouteRequest) :
    ((r.withoutModel u).outcome q).1 = (r.outcome q).1 := by
  have hd := consistent_outcome (r.withoutModel u) q
  have hmodel := hd.model
  rw [resolve_withoutModel hmalformed] at hmodel
  -- The model aside, the conditions on a decision do not ask what is set for a tier.
  exact consistent_iff.mp { hd with model := hmodel }

/-- Nothing that a request leads to, reports apart, tells a malformed setting from a missing one. -/
theorem route_withoutModel (store : EventStore) (time : String) (q : RouteRequest) :
    ((r.withoutModel u).route store time q).1 = (r.route store time q).1 ∧
      ((r.withoutModel u).route store time q).2.1 = (r.route store time q).2.1 := by
  have hsame := outcome_withoutModel hmalformed q
  refine ⟨hsame, ?_⟩
  have hevent : (r.withoutModel u).routeEvent time ((r.withoutModel u).outcome q).1 =
      r.routeEvent time (r.outcome q).1 := by
    rw [hsame]
    rfl
  exact congrArg (fun e => (r.record store e).1) hevent

end Malformed

/-- The model of a tier is that of the first source that has one. A malformed setting is no source,
just as a missing one, and whatever the source, the model is read back from its own text. -/
theorem resolve_first_available (s : Config.RoutingSettings) (endpoints : List (String × String))
    (log : Option Nat) (texts : List String) :
    let r := built s endpoints log texts
    (∀ t, FirstAvailable (modelSources s texts t) (r.resolve t).1) ∧
      (∀ u text, s.tiers.get? u = some text → ModelRef.parse? text = none →
        let r' := built (s.withoutModel u) endpoints log texts
        (∀ t, (r'.resolve t).1 = (r.resolve t).1) ∧
          ∀ store time q, (r'.route store time q).1 = (r.route store time q).1 ∧
            (r'.route store time q).2.1 = (r.route store time q).2.1) ∧
      (∀ t, (r.resolve t).1.WellFormed ∧
        ModelRef.parse? (toString (r.resolve t).1) = some (r.resolve t).1) ∧
      ∀ store time q, q.sessionOverride = none →
        (r.route store time q).1.model.WellFormed ∧
          ModelRef.parse? (toString (r.route store time q).1.model) =
            some (r.route store time q).1.model := by
  intro r
  have hr : r = ⟨s, texts.getLast?.bind ModelRef.parse?, endpoints, log⟩ := built_eq ..
  have hwell : ∀ t, (r.resolve t).1.WellFormed := wellFormed_resolve_built s endpoints log texts
  refine ⟨fun t => ?_, fun u text htext hparse => ?_, fun t => ?_, fun store time q hq => ?_⟩
  · rw [resolve_fst, hr]
    exact firstAvailable_getD ..
  · have hmalformed : (r.settings.tiers.get? u).bind ModelRef.parse? = none := by
      rw [hr]
      simp only [htext, Option.bind_some, hparse]
    intro r'
    have hunset : r' = r.withoutModel u := built_withoutModel ..
    rw [hunset]
    exact ⟨resolve_withoutModel hmalformed, route_withoutModel hmalformed⟩
  · exact ⟨hwell t, (hwell t).parse?_toString⟩
  · rw [model_route hq]
    exact ⟨hwell _, (hwell _).parse?_toString⟩

/-- Settings with a malformed model for one tier and a model in loose spelling for another. -/
def mixedSettings : Config.RoutingSettings := { tiers := { t1 := "ollama/", t2 := " x / y/z " } }

theorem resolve_first_available_mixed :
    let r := built mixedSettings [] none ["a/b", "c/d"]
    (r.resolve .t0).1 = ⟨"c", "d"⟩ ∧ (r.resolve .t2).1 = ⟨"x", "y/z"⟩ ∧
      (r.resolve .t2).1.WellFormed ∧
      ModelRef.parse? "ollama/" = none ∧ (r.resolve .t1).1 = ⟨"ollama", "llama3.2:3b"⟩ ∧
      ((built (mixedSettings.withoutModel .t1) [] none ["a/b", "c/d"]).resolve .t1).1 =
        (r.resolve .t1).1 := by
  obtain ⟨-, hmalformed, hwell, -⟩ := resolve_first_available mixedSettings [] none ["a/b", "c/d"]
  have hparse : ModelRef.parse? "ollama/" = none := by decide
  obtain ⟨hsame, -⟩ := hmalformed .t1 "ollama/" rfl hparse
  exact ⟨by decide, by decide, (hwell .t2).1, hparse, by decide, hsame .t1⟩

end Router
end TierRouting
