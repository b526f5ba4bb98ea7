import TierRouting.Proofs.Event.Writing
import TierRouting.Proofs.Turn.Calls

/-! Planning does not depend on events: wherever they go, and whether they get anywhere, the plans
are the same, and so is what is reported besides. -/
namespace TierRouting

/-- The notice tells how a log of events fares. -/
def Notice.isOfLog : Notice → Bool
  | eventsOn _ | logStarted _ | logDisabled _ | logClosed _ | logAbandoned _ | writerFailed _
  | writeFailed _ => true
  | _ => false

/-- The reports that do not concern logs. -/
def otherNotices (notices : List Notice) : List Notice := notices.filter (!·.isOfLog)

/-- What a step hands back, and what it reports besides the state of logs. -/
structure Answer where
  plan : Option TurnPlan := none
  notices : List Notice := []

/-- What happens to a planner and around it. -/
inductive PlannerStep where
  | call (c : Call)
  | shutdown
  /-- Anything else that changes the files, the logs, or what writes to them. -/
  | elsewhere (change : Host → Host)

namespace PlannerStep

def next (p : TurnPlanner) (h : Host) : PlannerStep → Host
  | call c => c.make p h
  | shutdown => h.shutdown.1
  | elsewhere change => change h

def answer (p : TurnPlanner) (h : Host) : PlannerStep → Answer
  | call (.plan time t) => ⟨some (p.plan h time t).1, otherNotices (p.plan h time t).2.2⟩
  | call (.complete time turn latencyMs responseSize) =>
    ⟨none, otherNotices (p.complete h time turn latencyMs responseSize).2⟩
  | call (.fallBack time turn m) => ⟨none, otherNotices (p.fallBack h time turn m).2⟩
  | shutdown => ⟨none, otherNotices h.shutdown.2⟩
  | elsewhere _ => {}

/-- The answer as a router and a prompt determine it. -/
def expected (r : Router) (prompt : String) : PlannerStep → Answer
  | call (.plan _ t) =>
    let (d, notices) := r.decide { t with systemPrompt := prompt }
    ⟨some (.routed d), otherNotices notices⟩
  | _ => {}

/-- The turn that a step asks a plan for. -/
def turn? : PlannerStep → Option Turn
  | call (.plan _ t) => some t
  | _ => none

end PlannerStep

theorem otherNotices_append (a b : List Notice) :
    otherNotices (a ++ b) = otherNotices a ++ otherNotices b :=
  List.filter_append a b

theorem otherNotices_eq_nil {notices : List Notice} (h : ∀ n ∈ notices, n.isOfLog = true) :
    otherNotices notices = [] := by
  rw [otherNotices, List.filter_eq_nil_iff]
  intro n hn
  simp [h n hn]

section Logs

variable {n : Notice}

/-- Whatever goes wrong with a file is reported as a matter of its log. -/
theorem EventLog.isOfLog_writeEvent (files : FileTree) (directory : Place) (path : String)
    (sink : Option Place) (e : Event)
    (hn : n ∈ (writeEvent files directory path sink e).2.2) : n.isOfLog = true := by
  unfold writeEvent at hn
  split at hn
  · simp at hn
  · split at hn
    · simp at hn
    · rw [List.mem_singleton.mp hn]
      rfl

theorem EventLog.isOfLog_write (directory : Place) (path : String) (events : List Event) :
    ∀ files sink, ∀ n ∈ (write files directory path sink events).2, n.isOfLog = true := by
  induction events with
  | nil =>
    intro files sink n hn
    simp [write] at hn
  | cons e events ih =>
    intro files sink n hn
    rw [write] at hn
    rcases List.mem_append.mp hn with hn | hn
    · exact isOfLog_writeEvent files directory path sink e hn
    · exact ih _ _ n hn

theorem EventLog.isOfLog_close (l : EventLog) (files : FileTree) (directory : Place)
    (hn : n ∈ (l.close files directory).2.2) : n.isOfLog = true := by
  unfold close at hn
  split at hn
  · exact isOfLog_write _ _ _ _ _ n hn
  · rw [List.mem_singleton.mp hn]
    rfl
  · simp at hn

theorem EventLog.isOfLog_record (l : EventLog) (e : Event) (hn : n ∈ (l.record e).2) :
    n.isOfLog = true := by
  unfold record at hn
  split at hn
  · simp at hn
  · rw [List.mem_singleton.mp hn]
    rfl
  · rw [List.mem_singleton.mp hn]
    rfl

namespace EventStore

theorem isOfLog_record (s : EventStore) (i : Nat) (e : Event) (hn : n ∈ (s.record i e).2) :
    n.isOfLog = true := by
  unfold record at hn
  split at hn
  · next l _ => exact l.isOfLog_record e hn
  · simp at hn

theorem isOfLog_close (s : EventStore) (i : Nat) (files : FileTree) (directory : Place)
    (hn : n ∈ (s.close i files directory).2.2) : n.isOfLog = true := by
  unfold close work at hn
  split at hn
  · next l _ => exact l.isOfLog_close files directory hn
  · simp at hn

theorem isOfLog_closeAll (directory : Place) (numbers : List Nat) :
    ∀ (s : EventStore) (files : FileTree),
      ∀ n ∈ (s.closeAll files directory numbers).2.2, n.isOfLog = true := by
  induction numbers with
  | nil =>
    intro s files n hn
    simp [closeAll] at hn
  | cons i numbers ih =>
    intro s files n hn
    rcases List.mem_append.mp hn with hn | hn
    · exact s.isOfLog_close i files directory hn
    · exact ih _ _ n hn

end EventStore

theorem Router.isOfLog_record (r : Router) (s : EventStore) (e : Event)
    (hn : n ∈ (r.record s e).2) : n.isOfLog = true := by
  unfold record at hn
  split at hn
  · exact s.isOfLog_record _ e hn
  · simp at hn

theorem TurnPlanner.isOfLog_recordFor (p : TurnPlanner) (h : Host) (turn : TurnPlan)
    (event : Router → RoutingDecision → Event) (hn : n ∈ (p.recordFor h turn event).2) :
    n.isOfLog = true := by
  unfold recordFor at hn
  split at hn
  · next r d _ => exact r.isOfLog_record _ _ hn
  · simp at hn

end Logs

namespace TurnPlanner

variable {p : TurnPlanner} {r : Router} {s : Config.Settings} {h h' : Host}
  {steps steps' : List PlannerStep}

/-- The answers to steps that are taken one after another. -/
def answers (p : TurnPlanner) : Host → List PlannerStep → List Answer
  | _, [] => []
  | h, a :: r => a.answer p h :: p.answers (a.next p h) r

def plans (p : TurnPlanner) (h : Host) (steps : List PlannerStep) : List TurnPlan :=
  (p.answers h steps).filterMap (·.plan)

/-- The state of the host has no part in the answer to a step. -/
theorem answer_eq_expected (hr : p.router = some r) (h : Host) (a : PlannerStep) :
    a.answer p h = a.expected r p.systemPrompt := by
  cases a with
  | call c =>
    cases c with
    | plan time t =>
      have hlog := otherNotices_eq_nil fun n hn => r.isOfLog_record h.events
        (r.routeEvent time (r.decide { t with systemPrompt := p.systemPrompt }).1) (n := n) hn
      simp [PlannerStep.answer, PlannerStep.expected, plan, hr, Router.route,
        otherNotices_append, hlog]
    | complete time turn latencyMs responseSize =>
      exact congrArg (Answer.mk none)
        (otherNotices_eq_nil fun n hn => p.isOfLog_recordFor h turn _ hn)
    | fallBack time turn m =>
      exact congrArg (Answer.mk none)
        (otherNotices_eq_nil fun n hn => p.isOfLog_recordFor h turn _ hn)
  | shutdown =>
    exact congrArg (Answer.mk none)
      (otherNotices_eq_nil (EventStore.isOfLog_closeAll h.directory _ _ h.files))
  | elsewhere change => rfl

theorem answers_eq (hr : p.router = some r) (h : Host) (steps : List PlannerStep) :
    p.answers h steps = steps.map (·.expected r p.systemPrompt) := by
  induction steps generalizing h with
  | nil => rfl
  | cons a steps ih => rw [answers, answer_eq_expected hr, ih, List.map_cons]

theorem plan_expected (r : Router) (prompt : String) (a : PlannerStep) :
    (a.expected r prompt).plan =
      a.turn?.map fun t => .routed (r.decide { t with systemPrompt := prompt }).1 := by
  cases a with
  | call c => cases c <;> rfl
  | shutdown => rfl
  | elsewhere change => rfl

/-- The plans are the decisions on the turns, in their order. -/
theorem plans_eq (hr : p.router = some r) (h : Host) (steps : List PlannerStep) :
    p.plans h steps = (steps.filterMap PlannerStep.turn?).map fun t =>
      .routed (r.decide { t with systemPrompt := p.systemPrompt }).1 := by
  rw [plans, answers_eq hr, List.filterMap_map, List.map_filterMap]
  congr 1
  funext a
  exact plan_expected r p.systemPrompt a

end TurnPlanner

/-- The same settings but for what becomes of events. -/
def Config.Settings.withEvents (s : Config.Settings) (a : Config.AnalyticsSettings) :
    Config.Settings :=
  { s with routing := { s.routing with analytics := a } }

/-- A router decides as before when its events go elsewhere. -/
theorem Router.decide_withEvents (s : Config.Settings) (a : Config.AnalyticsSettings)
    (log : Option Nat) (q : RouteRequest) :
    Router.decide { (Router.ofSettings (s.withEvents a)).1 with log } q =
      (Router.ofSettings s).1.decide q :=
  rfl

namespace TurnPlanner

variable {s : Config.Settings} {h h' : Host} {steps steps' : List PlannerStep}

theorem start_withEvents (hon : s.routing.enabled = true) (h : Host)
    (a : Config.AnalyticsSettings) :
    (∃ log, (start h (s.withEvents a)).1.router =
      some { (Router.ofSettings (s.withEvents a)).1 with log }) ∧
    (start h (s.withEvents a)).1.systemPrompt = (loadPrompt h s.agent).1 := by
  have hrouting : (s.withEvents a).routing.enabled = true := hon
  cases ha : a.enabled with
  | true =>
    have hanalytics : (s.withEvents a).routing.analytics.enabled = true := ha
    simp only [start, attachLog, hrouting, hanalytics, if_true]
    exact ⟨⟨_, rfl⟩, rfl⟩
  | false =>
    have hanalytics : (s.withEvents a).routing.analytics.enabled = false := ha
    simp only [start, attachLog, hrouting, hanalytics, if_true]
    exact ⟨⟨_, rfl⟩, rfl⟩

/-- The planner answers by the other settings and the prompt alone. -/
theorem answers_start (hon : s.routing.enabled = true) (h : Host) (a : Config.AnalyticsSettings)
    (at_ : Host) (steps : List PlannerStep) :
    (start h (s.withEvents a)).1.answers at_ steps =
      steps.map (·.expected (Router.ofSettings s).1 (loadPrompt h s.agent).1) := by
  obtain ⟨⟨log, hr⟩, hprompt⟩ := start_withEvents hon h a
  rw [answers_eq hr, hprompt]
  rfl

/-- Two programs plan the same turns. Their settings may differ in what becomes of events, and so
may their files, their logs and whatever else happens. The plans are the same, every step is
answered, and no answer depends on events. -/
theorem plans_undisturbed (hon : s.routing.enabled = true)
    (hprompt : (loadPrompt h s.agent).1 = (loadPrompt h' s.agent).1)
    (a a' : Config.AnalyticsSettings)
    (hturns : steps.filterMap PlannerStep.turn? = steps'.filterMap PlannerStep.turn?) :
    let run := start h (s.withEvents a)
    let run' := start h' (s.withEvents a')
    run.1.plans run.2.1 steps = run'.1.plans run'.2.1 steps' ∧
      (run.1.plans run.2.1 steps).length = (steps.filterMap PlannerStep.turn?).length ∧
      run.1.answers run.2.1 steps =
        steps.map (·.expected (Router.ofSettings s).1 (loadPrompt h s.agent).1) := by
  intro run run'
  obtain ⟨⟨log, hr⟩, hown⟩ := start_withEvents hon h a
  obtain ⟨⟨log', hr'⟩, hown'⟩ := start_withEvents hon h' a'
  have hplans := plans_eq hr run.2.1 steps
  have hplans' := plans_eq hr' run'.2.1 steps'
  refine ⟨?_, ?_, answers_start hon h a run.2.1 steps⟩
  · rw [hplans, hplans', hturns, hown, hown', hprompt]
    simp only [Router.decide_withEvents]
  · rw [hplans, List.length_map]

/-- Routing is on, and events go where `events` says. -/
def eventful (events : Config.AnalyticsSettings) : Config.Settings :=
  { routing := { enabled := true, analytics := events } }

/-- A program beside whose directory there is a file called `taken`. -/
def smallHost : Host where
  files := ⟨[(["taken".toList], .file .empty)]⟩
  directory := []
  env := ⟨[]⟩

def idleHost : Host := { smallHost with events := { isRunning := false } }

def smallTalk : List PlannerStep :=
  let greeting := ((Router.ofSettings (eventful {})).1.decide { message := "hello" }).1
  [.call (.plan "12:00" { message := "hello" }), .call (.complete "12:01" (.routed greeting) 5 7),
    .shutdown, .call (.plan "12:02" { message := "thanks" }),
    .call (.fallBack "12:03" (.routed greeting) .fallback)]

/-- The plans from the start on, with events at one place or none. -/
def plansWith (events : Config.AnalyticsSettings) (h : Host) (steps : List PlannerStep) :
    List TurnPlan :=
  (start h (eventful events)).1.plans (start h (eventful events)).2.1 steps

/-- The file for events can be written, can never be opened, has nothing that writes it, is closed
from the start, or is not asked for. -/
theorem plans_undisturbed_five_ways :
    EventLog.Writable smallHost.files smallHost.directory "events.jsonl" ["events.jsonl".toList] ∧
    (EventLog.openFile smallHost.files smallHost.directory "taken/events.jsonl").2 =
      .error .alreadyExists ∧
    idleHost.events.isRunning = false ∧
    (plansWith { path := some "events.jsonl" } smallHost smallTalk).length = 2 ∧
    ∀ plans ∈ [plansWith { path := some "taken/events.jsonl" } smallHost smallTalk,
        plansWith { path := some "events.jsonl" } idleHost smallTalk,
        plansWith { path := some "events.jsonl" } smallHost (.shutdown :: smallTalk),
        plansWith { enabled := false } smallHost smallTalk],
      plansWith { path := some "events.jsonl" } smallHost smallTalk = plans := by
  have same (events : Config.AnalyticsSettings) (h' : Host) (steps' : List PlannerStep)
      (hprompt : (loadPrompt smallHost {}).1 = (loadPrompt h' {}).1)
      (hturns : smallTalk.filterMap PlannerStep.turn? = steps'.filterMap PlannerStep.turn?) :
      plansWith { path := some "events.jsonl" } smallHost smallTalk =
        plansWith events h' steps' :=
    (plans_undisturbed (s := eventful {}) rfl hprompt _ events hturns).1
  have hsame : (loadPrompt smallHost {}).1 = (loadPrompt smallHost {}).1 := rfl
  have hlength : (plansWith { path := some "events.jsonl" } smallHost smallTalk).length = 2 :=
    (plans_undisturbed (s := eventful {}) rfl hsame _ {} rfl).2.1
  refine ⟨rfl, rfl, rfl, hlength, ?_⟩
  simp only [List.forall_mem_cons]
  exact ⟨same _ _ _ rfl rfl, same _ _ _ rfl rfl, same _ _ _ rfl rfl, same _ _ _ rfl rfl, nofun⟩

end TurnPlanner
end TierRouting
