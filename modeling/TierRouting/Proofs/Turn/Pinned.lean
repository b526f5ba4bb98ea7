import TierRouting.Proofs.Routing.Consistency
import TierRouting.Turn.Planner

/-! A turn that brings its own model is planned alike with routing on and off. -/
namespace TierRouting

variable {t : Turn} {m : ModelRef} {p : TurnPlanner} {r : Router} {d : RoutingDecision}
  {q : RouteRequest}

/-- What a caller does by a plan, however the plan came about. -/
structure TurnPlan.Content where
  model : ModelRef
  systemPrompt : Option String
  userPreamble : Option String

def TurnPlan.content (plan : TurnPlan) : Content :=
  ⟨plan.model, plan.systemPrompt, plan.userPreamble⟩

@[simp] theorem TurnPlan.content_routed (d : RoutingDecision) :
    (routed d).content = ⟨d.model, d.prompt.systemPrompt, d.prompt.userPreamble⟩ := rfl

@[simp] theorem TurnPlan.content_direct (m : ModelRef) (prompt : String) :
    (direct m prompt).content = ⟨m, some prompt, none⟩ := rfl

/-- The same turn of a session that insists on a model. -/
def Turn.pinned (t : Turn) (m : ModelRef) : Turn := { t with sessionOverride := some m }

def Config.Settings.switched (s : Config.Settings) (on : Bool) : Config.Settings :=
  { s with routing := { s.routing with enabled := on } }

theorem adapt_bypassTier (prompt : String) : adapt prompt Router.bypassTier =
    { systemPrompt := some prompt, tier := Router.bypassTier, wasAdapted := false } := rfl

/-- A decision on a pinned request follows the pin and hands the prompt through. -/
theorem Router.Consistent.content_of_pinned (h : Consistent r q d)
    (hm : q.sessionOverride = some m) :
    (TurnPlan.routed d).content = ⟨m, some q.systemPrompt, none⟩ := by
  have hbypassed : d.bypassed = true := by
    apply h.bypassed_iff.mpr
    left
    rw [hm]
    rfl
  have hmodel : d.model = m := by
    rw [h.model, hm]
    rfl
  have hprompt : d.prompt = adapt q.systemPrompt bypassTier := by
    rw [h.prompt, h.tier_of_bypassed hbypassed]
    rfl
  rw [TurnPlan.content_routed, hmodel, hprompt, adapt_bypassTier]

namespace TurnPlanner

/-- Both ways to a plan lead to the same content, whatever the message, the bias and the budget. -/
theorem content_plan_pinned (p : TurnPlanner) (h : Host) (time : String) (t : Turn)
    (m : ModelRef) :
    (p.plan h time (t.pinned m)).1.content = ⟨m, some p.systemPrompt, none⟩ := by
  cases hr : p.router with
  | none => simp [plan, hr, Turn.pinned]
  | some r =>
    have hplan : (p.plan h time (t.pinned m)).1 = .routed
        (r.route h.events time { t.pinned m with systemPrompt := p.systemPrompt }).1 := by
      simp [plan, hr]
    rw [hplan]
    exact (r.route_consistent h.events time _).content_of_pinned rfl

theorem start_switched (h : Host) (s : Config.Settings) (on : Bool) :
    (start h (s.switched on)).1.isEnabled = on ∧
      (start h (s.switched on)).1.systemPrompt = (loadPrompt h s.agent).1 := by
  cases on with
  | true => simp [start, Config.Settings.switched, isEnabled]
  | false => simp [start, Config.Settings.switched, isEnabled]

/-- Switching routing on or off changes nothing for pinned turns: the plan names the model of the
session and carries the prompt of the settings as it is, whenever the turn is planned. -/
theorem pinned_content_switched (h : Host) (s : Config.Settings) (t : Turn) (m : ModelRef)
    (atOn atOff : Host) (timeOn timeOff : String) :
    let on := (start h (s.switched true)).1
    let off := (start h (s.switched false)).1
    on.isEnabled = true ∧ off.isEnabled = false ∧
      (on.plan atOn timeOn (t.pinned m)).1.content =
        (off.plan atOff timeOff (t.pinned m)).1.content ∧
      (off.plan atOff timeOff (t.pinned m)).1.content =
        ⟨m, some (loadPrompt h s.agent).1, none⟩ ∧
      on.systemPrompt = (loadPrompt h s.agent).1 ∧
      off.systemPrompt = (loadPrompt h s.agent).1 := by
  obtain ⟨hon, hpromptOn⟩ := start_switched h s true
  obtain ⟨hoff, hpromptOff⟩ := start_switched h s false
  refine ⟨hon, hoff, ?_, ?_, hpromptOn, hpromptOff⟩
  · rw [content_plan_pinned, content_plan_pinned, hpromptOn, hpromptOff]
  · rw [content_plan_pinned, hpromptOff]

end TurnPlanner
end TierRouting
