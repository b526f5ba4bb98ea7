import TierRouting.Config.Load
import TierRouting.Routing.Router

/-! Planning the turns of a conversation, with routing switched on or off by the settings. -/
namespace TierRouting

/-- The program around a planner: where it runs, and the event logs it holds. -/
structure Host extends Config.Surroundings where
  events : EventStore := {}

namespace Host

def logFor (h : Host) (path : String) : Host × Nat × List Notice :=
  let (events, i, notices) := h.events.logFor path
  ({ h with events }, i, notices)

def openLog (h : Host) (path : String) : Host × Nat × List Notice :=
  let (events, i, notices) := h.events.openLog path
  ({ h with events }, i, notices)

def record (h : Host) (i : Nat) (e : Event) : Host × List Notice :=
  let (events, notices) := h.events.record i e
  ({ h with events }, notices)

def writeNext (h : Host) (i : Nat) : Host × List Notice :=
  let (events, files, notices) := h.events.writeNext i h.files h.directory
  ({ h with events, files }, notices)

def closeLog (h : Host) (i : Nat) : Host × List Notice :=
  let (events, files, notices) := h.events.close i h.files h.directory
  ({ h with events, files }, notices)

def shutdown (h : Host) : Host × List Notice :=
  let (events, files, notices) := h.events.shutdown h.files h.directory
  ({ h with events, files }, notices)

end Host

/-- What to call for one turn. -/
inductive TurnPlan where
  | routed (d : RoutingDecision)
  /-- Routing is off. -/
  | direct (model : ModelRef) (systemPrompt : String)

namespace TurnPlan

def model : TurnPlan → ModelRef
  | routed d => d.model
  | direct m _ => m

/-- Absent where no model has to be called. -/
def systemPrompt : TurnPlan → Option String
  | routed d => d.prompt.systemPrompt
  | direct _ prompt => some prompt

def userPreamble : TurnPlan → Option String
  | routed d => d.prompt.userPreamble
  | direct .. => none

def decision : TurnPlan → Option RoutingDecision
  | routed d => some d
  | direct .. => none

end TurnPlan

structure TurnPlanner where
  /-- Absent while routing is off. -/
  router : Option Router
  defaultModel : ModelRef
  systemPrompt : String

namespace TurnPlanner

/-- The prompt in the file of the settings, or the one in the settings themselves. -/
def loadPrompt (h : Host) (a : Config.AgentSettings) : String × List Notice :=
  let own := a.systemPrompt.getD ""
  match a.systemPromptFile with
  | none => (own, [])
  | some path =>
    match h.files.readText h.directory path with
    | .ok text => (text, [])
    | .error e => (own, [.promptUnreadable path e])

/-- Gives a router its log, if the settings ask for events. -/
def attachLog (h : Host) (s : Config.Settings) (r : Router) : Router × Host × List Notice :=
  if s.routing.analytics.enabled then
    let path := s.analyticsPath h.env h.account
    let (h, i, notices) := h.logFor path
    ({ r with log := some i }, h, .eventsOn path :: notices)
  else (r, h, [])

def start (h : Host) (s : Config.Settings) : TurnPlanner × Host × List Notice :=
  let defaultModel := (ModelRef.parse? s.providers.defaultModel).getD .fallback
  let (systemPrompt, unread) := loadPrompt h s.agent
  if s.routing.enabled then
    let (r, malformed) := Router.ofSettings s
    let (r, h, notices) := attachLog h s r
    (⟨some r, defaultModel, systemPrompt⟩, h,
      unread ++ malformed ++ notices ++ [.routingOn s.routing.bias s.routing.budget.preferFree])
  else (⟨none, defaultModel, systemPrompt⟩, h, unread ++ [.routingOff defaultModel])

def isEnabled (p : TurnPlanner) : Bool := p.router.isSome

def plan (p : TurnPlanner) (h : Host) (time : String) (t : Turn) :
    TurnPlan × Host × List Notice :=
  match p.router with
  | none => (.direct (t.sessionOverride.getD p.defaultModel) p.systemPrompt, h, [])
  | some r =>
    let (d, events, notices) := r.route h.events time { t with systemPrompt := p.systemPrompt }
    (.routed d, { h with events }, notices)

/-- Records an event about a routed turn. -/
def recordFor (p : TurnPlanner) (h : Host) (plan : TurnPlan)
    (event : Router → RoutingDecision → Event) : Host × List Notice :=
  match p.router, plan with
  | some r, .routed d =>
    let (events, notices) := r.record h.events (event r d)
    ({ h with events }, notices)
  | _, _ => (h, [])

/-- Tells that the model of a turn has answered. -/
def complete (p : TurnPlanner) (h : Host) (time : String) (plan : TurnPlan)
    (latencyMs responseSize : Nat) : Host × List Notice :=
  p.recordFor h plan (·.completionEvent time · latencyMs responseSize)

/-- Tells that another model was asked, since the one of the turn failed. -/
def fallBack (p : TurnPlanner) (h : Host) (time : String) (plan : TurnPlan) (m : ModelRef) :
    Host × List Notice :=
  p.recordFor h plan (·.fallbackEvent time · m)

end TurnPlanner
end TierRouting
