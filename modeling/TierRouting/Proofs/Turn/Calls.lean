import TierRouting.Proofs.Event.Sharing
import TierRouting.Turn.Planner

/-! What planning a turn and telling how it went record. -/
namespace TierRouting

/-- What a planner is asked for. -/
inductive Call where
  | plan (time : String) (t : Turn)
  | complete (time : String) (turn : TurnPlan) (latencyMs responseSize : Nat)
  | fallBack (time : String) (turn : TurnPlan) (m : ModelRef)

namespace Call

/-- What is left of the host when a planner has answered. -/
def make (c : Call) (p : TurnPlanner) (h : Host) : Host :=
  match c with
  | plan time t => (p.plan h time t).2.1
  | complete time turn latencyMs responseSize => (p.complete h time turn latencyMs responseSize).1
  | fallBack time turn m => (p.fallBack h time turn m).1

/-- The call is about a routed turn, if the planner routes. -/
def isRouted : Call → Bool
  | plan .. => true
  | complete _ turn _ _ => turn.decision.isSome
  | fallBack _ turn _ => turn.decision.isSome

/-- The kinds of event that may tell of a call. -/
def kinds : Call → List EventKind
  | plan .. => [.route, .budgetDowngrade, .override]
  | complete .. => [.complete]
  | fallBack .. => [.fallback]

/-- An event tells of a call on a planner with a router. -/
inductive ReportedBy (r : Router) : Call → Event → Prop
  | plan (time : String) (t : Turn) (prompt : String) : ReportedBy r (.plan time t)
      (r.routeEvent time (r.decide { t with systemPrompt := prompt }).1)
  | complete (time : String) (d : RoutingDecision) (latencyMs responseSize : Nat) :
      ReportedBy r (.complete time (.routed d) latencyMs responseSize)
        (r.completionEvent time d latencyMs responseSize)
  | fallBack (time : String) (d : RoutingDecision) (m : ModelRef) :
      ReportedBy r (.fallBack time (.routed d) m) (r.fallbackEvent time d m)

variable {c : Call} {r : Router} {e : Event}

theorem routeKind_mem (d : RoutingDecision) :
    Router.routeKind d ∈ [EventKind.route, .budgetDowngrade, .override] := by
  unfold Router.routeKind
  split
  · decide
  · split
    · decide
    · decide

theorem ReportedBy.kind_mem (h : ReportedBy r c e) : e.kind ∈ c.kinds := by
  cases h with
  | plan time t prompt => exact routeKind_mem _
  | complete time d latencyMs responseSize => exact List.mem_singleton_self _
  | fallBack time d m => exact List.mem_singleton_self _

end Call

namespace TurnPlanner

variable {p : TurnPlanner} {h : Host} {s : Config.Settings} {k : Nat} {c : Call}

/-- The planner routes by the settings and has a log. -/
def LogsTo (p : TurnPlanner) (s : Config.Settings) (k : Nat) : Prop :=
  p.router = some { (Router.ofSettings s).1 with log := some k }

/-- The log of a planner, by its number. -/
def log? (p : TurnPlanner) : Option Nat := p.router.bind (·.log)

theorem LogsTo.log? (hp : p.LogsTo s k) : p.log? = some k := by
  rw [TurnPlanner.log?, hp]
  rfl

theorem log?_of_no_log (hp : ∀ r ∈ p.router, r.log = none) : p.log? = none := by
  rw [TurnPlanner.log?, Option.bind_eq_none_iff]
  exact hp

/-- A call about a routed turn records the event that tells of it, and nothing else. -/
theorem LogsTo.make (hp : p.LogsTo s k) (h : Host) (hc : c.isRouted = true) :
    ∃ e, c.ReportedBy (Router.ofSettings s).1 e ∧
      c.make p h = { h with events := (h.events.record k e).1 } := by
  rw [LogsTo] at hp
  cases c with
  | plan time t =>
    refine ⟨_, .plan time t p.systemPrompt, ?_⟩
    simp only [Call.make, TurnPlanner.plan, hp]
    rfl
  | complete time turn latencyMs responseSize =>
    cases turn with
    | routed d =>
      refine ⟨_, .complete time d latencyMs responseSize, ?_⟩
      simp only [Call.make, TurnPlanner.complete, recordFor, hp]
      rfl
    | direct m prompt => contradiction
  | fallBack time turn m =>
    cases turn with
    | routed d =>
      refine ⟨_, .fallBack time d m, ?_⟩
      simp only [Call.make, TurnPlanner.fallBack, recordFor, hp]
      rfl
    | direct m prompt => contradiction

theorem recordFor_direct (p : TurnPlanner) (h : Host) (m : ModelRef) (prompt : String)
    (event : Router → RoutingDecision → Event) :
    p.recordFor h (.direct m prompt) event = (h, []) := by
  cases hr : p.router <;> simp [recordFor, hr]

theorem recordFor_of_no_log (hp : ∀ r ∈ p.router, r.log = none) (h : Host) (turn : TurnPlan)
    (event : Router → RoutingDecision → Event) : p.recordFor h turn event = (h, []) := by
  cases hr : p.router with
  | none => simp [recordFor, hr]
  | some r => cases turn <;> simp [recordFor, hr, Router.record, hp r hr]

/-- A call about a turn that was not routed leaves everything as it is. -/
theorem make_of_not_isRouted (p : TurnPlanner) (h : Host) (hc : c.isRouted = false) :
    c.make p h = h := by
  cases c with
  | plan time t => contradiction
  | complete time turn latencyMs responseSize =>
    cases turn with
    | routed d => contradiction
    | direct m prompt => rw [Call.make, TurnPlanner.complete, recordFor_direct]
  | fallBack time turn m =>
    cases turn with
    | routed d => contradiction
    | direct m prompt => rw [Call.make, TurnPlanner.fallBack, recordFor_direct]

/-- A planner without a log records nothing. -/
theorem make_of_no_log (hp : ∀ r ∈ p.router, r.log = none) (h : Host) : c.make p h = h := by
  cases c with
  | plan time t =>
    cases hr : p.router with
    | none => simp [Call.make, TurnPlanner.plan, hr]
    | some r => simp [Call.make, TurnPlanner.plan, hr, Router.route, Router.record, hp r hr]
  | complete time turn latencyMs responseSize =>
    rw [Call.make, TurnPlanner.complete, recordFor_of_no_log hp]
  | fallBack time turn m => rw [Call.make, TurnPlanner.fallBack, recordFor_of_no_log hp]

theorem logsTo_start (h : Host) (hrouting : s.routing.enabled = true)
    (hanalytics : s.routing.analytics.enabled = true) :
    (start h s).1.LogsTo s (h.events.logFor (s.analyticsPath h.env h.account)).2.1 ∧
      (start h s).2.1 = { h with events := (h.events.logFor (s.analyticsPath h.env h.account)).1 } := by
  simp [start, attachLog, hrouting, hanalytics, LogsTo, Host.logFor]

theorem start_of_disabled (h : Host)
    (hoff : s.routing.enabled = false ∨ s.routing.analytics.enabled = false) :
    (∀ r ∈ (start h s).1.router, r.log = none) ∧ (start h s).2.1 = h := by
  cases hrouting : s.routing.enabled with
  | false => simp [start, hrouting]
  | true =>
    have hanalytics : s.routing.analytics.enabled = false := by simpa [hrouting] using hoff
    simp [start, attachLog, hrouting, hanalytics, Router.ofSettings, Router.withDefaultModel]

end TurnPlanner
end TierRouting
