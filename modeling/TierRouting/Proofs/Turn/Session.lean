import Mathlib.Data.List.Forall2
import TierRouting.Proofs.Event.Lines
import TierRouting.Proofs.Routing.Consistency
import TierRouting.Proofs.Turn.Calls

/-! Planners that are started one after another share a log. Its file gets one line for each call
about a routed turn, in the order of the calls. -/
namespace TierRouting

/-- The length of the message that a call is about is a word. -/
def Call.Fits : Call → Prop
  | plan _ t => t.message.length < 2 ^ 64
  | complete _ turn _ _ => ∀ d ∈ turn.decision, d.context.messageLength < 2 ^ 64
  | fallBack _ turn _ => ∀ d ∈ turn.decision, d.context.messageLength < 2 ^ 64

theorem Call.ReportedBy.made {r : Router} {c : Call} {e : Event} (h : c.ReportedBy r e)
    (hfits : c.Fits) : e.Made := by
  cases h with
  | plan time t prompt =>
    refine .ofDecision _ _ _ _ ?_
    have hcontext := (r.consistent_outcome { t with systemPrompt := prompt }).context
    exact lt_of_eq_of_lt (congrArg DecisionContext.messageLength hcontext) hfits
  | complete time d latencyMs responseSize =>
    exact .withCompletion _ _ (.ofDecision _ _ _ _ (hfits d rfl))
  | fallBack time d m => exact .withModel _ _ (.ofDecision _ _ _ _ (hfits d rfl))

/-- What happens while a program runs. Planners are numbered in the order of starting. -/
inductive SessionStep where
  | start
  | call (i : Nat) (c : Call)
  /-- The writer of a planner's log has its turn. -/
  | write (i : Nat)
  | shutdown

/-- A program and the planners that it started. -/
structure Session where
  host : Host
  planners : List TurnPlanner := []

namespace Session

def step (s : Config.Settings) (x : Session) : SessionStep → Session
  | .start =>
    let (p, h, _) := TurnPlanner.start x.host s
    ⟨h, x.planners ++ [p]⟩
  | .call i c =>
    match x.planners[i]? with
    | some p => { x with host := c.make p x.host }
    | none => x
  | .write i =>
    match x.planners[i]?.bind (·.log?) with
    | some k => { x with host := (x.host.writeNext k).1 }
    | none => x
  | .shutdown => { x with host := x.host.shutdown.1 }

def run (s : Config.Settings) (x : Session) (steps : List SessionStep) : Session :=
  steps.foldl (step s) x

/-- How many planners were started, and how many of them before the last shutdown. -/
structure Tally where
  started : Nat := 0
  retired : Nat := 0

def Tally.next (n : Tally) : SessionStep → Tally
  | .start => { n with started := n.started + 1 }
  | .call .. | .write _ => n
  | .shutdown => { n with retired := n.started }

/-- The planner is there, and there was no shutdown since it was started. -/
def Tally.isLive (n : Tally) (i : Nat) : Bool := n.retired ≤ i && i < n.started

/-- The call that a step puts on record, if it does. -/
def Tally.recorded (n : Tally) : SessionStep → List Call
  | .call i c => if n.isLive i && c.isRouted then [c] else []
  | _ => []

/-- The calls about routed turns on planners that are live, in the order of the calls. -/
def recordedCalls : Tally → List SessionStep → List Call
  | _, [] => []
  | n, a :: r => n.recorded a ++ recordedCalls (n.next a) r

variable {s : Config.Settings} {x : Session} {n : Tally} {p : Place} {expected : ByteArray}
  {events queue : List Event} {store store' : EventStore} {k m : Nat} {a : SessionStep}
  {steps later : List SessionStep} {planners : List TurnPlanner} {q q' : TurnPlanner}

/-- The first planners have logs that take nothing any more. -/
def Retired (s : Config.Settings) (store : EventStore) (planners : List TurnPlanner) (m : Nat) :
    Prop :=
  ∀ i q, planners[i]? = some q → i < m → ∃ k, q.LogsTo s k ∧ store.IsClosed k

/-- The later planners have one log. -/
def Live (s : Config.Settings) (planners : List TurnPlanner) (m k : Nat) : Prop :=
  ∀ i q, planners[i]? = some q → m ≤ i → q.LogsTo s k

theorem getElem?_concat_cases {i : Nat} (h : (planners ++ [q])[i]? = some q') :
    planners[i]? = some q' ∨ i = planners.length ∧ q = q' := by
  rw [List.getElem?_append] at h
  split at h
  · exact .inl h
  · rw [List.getElem?_singleton] at h
    split at h
    · exact .inr ⟨by omega, Option.some.inj h⟩
    · contradiction

theorem Retired.concat (h : Retired s store planners m) (hm : m ≤ planners.length) :
    Retired s store (planners ++ [q]) m := by
  intro i q' hq hi
  rcases getElem?_concat_cases hq with hq | ⟨rfl, -⟩
  · exact h i q' hq hi
  · omega

theorem Retired.mono (h : Retired s store planners m)
    (hclosed : ∀ k, store.IsClosed k → store'.IsClosed k) : Retired s store' planners m := by
  intro i q hq hi
  obtain ⟨k, hk, hc⟩ := h i q hq hi
  exact ⟨k, hk, hclosed k hc⟩

theorem Live.concat (h : Live s planners m k) (hq : q.LogsTo s k) :
    Live s (planners ++ [q]) m k := by
  intro i q' hq' hi
  rcases getElem?_concat_cases hq' with hq' | ⟨-, rfl⟩
  · exact h i q' hq' hi
  · exact hq

theorem live_of_length_le (h : planners.length ≤ m) (k : Nat) : Live s planners m k := by
  intro i q hq hi
  have := (List.getElem?_eq_some_iff.mp hq).1
  omega

/-- When the shared log is closed, no planner has a log that is open. -/
theorem Retired.all (h : Retired s store planners m) (hlive : Live s planners m k)
    (hk : store.IsClosed k) (m' : Nat) : Retired s store planners m' := by
  intro i q hq _
  rcases Nat.lt_or_ge i m with hi | hi
  · exact h i q hq hi
  · exact ⟨k, hlive i q hq hi, hk⟩

/-- The file that the settings name for events. -/
def path (s : Config.Settings) (h : Host) : String := s.analyticsPath h.env h.account

/-- What a program holds back from its file. No log is shared, or the one that is has taken
events since a planner was started, and what its writer writes gets to the file. -/
inductive Holds (s : Config.Settings) (p : Place) (x : Session) (n : Tally) : List Event → Prop
  | idle (hretired : n.retired = n.started) (hshared : x.host.events.shared = []) :
      Holds s p x n []
  | shares (hretired : n.retired < n.started) (k : Nat) (queue : List Event)
      (sink : Option Place) (hshares : x.host.events.Shares (path s x.host) k queue sink)
      (hreaches : EventLog.Reaches x.host.files x.host.directory (path s x.host) p sink)
      (hlive : Live s x.planners n.retired k) : Holds s p x n queue

/-- What holds after every step: `expected` is what the file has once all is written. -/
structure Invariant (s : Config.Settings) (p : Place) (expected : ByteArray) (n : Tally)
    (x : Session) : Prop where
  started : x.planners.length = n.started
  le : n.retired ≤ n.started
  running : x.host.events.isRunning = true
  writable : EventLog.Writable x.host.files x.host.directory (path s x.host) p
  retired : Retired s x.host.events x.planners n.retired
  content : ∃ queue, x.Holds s p n queue ∧
    x.host.files.contentAt p ++ (EventLog.textOf queue).toUTF8 = expected

theorem Invariant.start (h : Invariant s p expected n x) (hrouting : s.routing.enabled = true)
    (hanalytics : s.routing.analytics.enabled = true) :
    Invariant s p expected (n.next .start) (x.step s .start) := by
  obtain ⟨hlogs, hhost⟩ := TurnPlanner.logsTo_start x.host hrouting hanalytics
  have hstep : x.step s .start =
      ⟨{ x.host with events := (x.host.events.logFor (path s x.host)).1 },
        x.planners ++ [(TurnPlanner.start x.host s).1]⟩ := by
    rw [path, ← hhost]
    rfl
  have hstarted : (x.planners ++ [(TurnPlanner.start x.host s).1]).length = n.started + 1 := by
    simp [h.started]
  have hretired := h.retired.concat (q := (TurnPlanner.start x.host s).1) (h.started ▸ h.le)
  obtain ⟨queue, hholds, hcontent⟩ := h.content
  rw [hstep]
  cases hholds with
  | idle hall hshared =>
    have hshares := EventStore.shares_logFor (path s x.host) hshared h.running
    have hlive := (live_of_length_le (Nat.le_of_eq (h.started.trans hall.symm)) _).concat hlogs
    refine ⟨hstarted, Nat.le_succ_of_le h.le, ?_, h.writable,
      hretired.mono fun k hk => hk.logFor hshared h.running,
      [], .shares (Nat.lt_succ_of_le h.le) _ [] none hshares (.unopened h.writable) hlive,
      hcontent⟩
    rw [(EventStore.logFor_of_shared_eq_nil _ hshared h.running).1]
    exact h.running
  | shares hlt k queue sink hshares hreaches hlive =>
    have hsame := hshares.logFor
    rw [path] at hsame
    rw [hsame] at hlogs
    rw [path, hsame]
    exact ⟨hstarted, Nat.le_succ_of_le h.le, h.running, h.writable, hretired,
      queue, .shares (Nat.lt_succ_of_lt hlt) k queue sink hshares hreaches (hlive.concat hlogs),
      hcontent⟩

theorem append_textOf_nil (b : ByteArray) : b ++ (EventLog.textOf []).toUTF8 = b :=
  ByteArray.append_empty

theorem append_textOf_singleton (b : ByteArray) (queue : List Event) (e : Event) :
    b ++ (EventLog.textOf (queue ++ [e])).toUTF8 =
      b ++ (EventLog.textOf queue).toUTF8 ++ (EventLog.textOf [e]).toUTF8 := by
  rw [EventLog.textOf_append, ByteArray.append_assoc]

/-- Events tell of calls, one of each, in the same order. -/
def Report (s : Config.Settings) : List Call → List Event → Prop :=
  List.Forall₂ fun c e => c.ReportedBy (Router.ofSettings s).1 e ∧ e.kind ∈ c.kinds

/-- Lines for calls have a price wherever their events have one. -/
theorem Report.made {calls : List Call} (h : Report s calls events)
    (hfits : ∀ c ∈ calls, c.Fits) : ∀ e ∈ events, e.Made := by
  induction h with
  | nil => exact List.forall_mem_nil _
  | cons hce _ ih =>
    intro e he
    rcases List.mem_cons.mp he with rfl | he
    · exact hce.1.made (hfits _ List.mem_cons_self)
    · exact ih (fun c hc => hfits c (List.mem_cons_of_mem _ hc)) e he

/-- On a planner that is live, a call about a routed turn adds one event. -/
theorem Invariant.record {i : Nat} {c : Call} (h : Invariant s p expected n x)
    (hq : x.planners[i]? = some q) (hle : n.retired ≤ i) (hc : c.isRouted = true) :
    ∃ e, c.ReportedBy (Router.ofSettings s).1 e ∧
      Invariant s p (expected ++ (EventLog.textOf [e]).toUTF8) n
        { x with host := c.make q x.host } := by
  have hi : i < n.started := h.started ▸ (List.getElem?_eq_some_iff.mp hq).1
  obtain ⟨queue, hholds, hcontent⟩ := h.content
  cases hholds with
  | idle hall hshared => omega
  | shares hlt k queue sink hshares hreaches hlive =>
    obtain ⟨e, hreport, hmake⟩ := (hlive i q hq hle).make x.host hc
    refine ⟨e, hreport, ?_⟩
    rw [hmake]
    refine ⟨h.started, h.le, ?_, h.writable, h.retired.mono fun k hk => hk.record hshares e,
      _, .shares hlt k _ sink (hshares.record e) hreaches hlive, ?_⟩
    · rw [hshares.record_eq]
      exact h.running
    · rw [append_textOf_singleton, hcontent]

/-- Any other call adds nothing. -/
theorem Invariant.call (h : Invariant s p expected n x) (i : Nat) (c : Call) :
    ∃ events, Report s (n.recorded (.call i c)) events ∧
      Invariant s p (expected ++ (EventLog.textOf events).toUTF8) n (x.step s (.call i c)) := by
  -- Without an event the step changes nothing.
  have quiet (hstep : x.step s (.call i c) = x) (hnone : (n.isLive i && c.isRouted) = false) :
      ∃ events, Report s (n.recorded (.call i c)) events ∧
        Invariant s p (expected ++ (EventLog.textOf events).toUTF8) n (x.step s (.call i c)) := by
    refine ⟨[], ?_, ?_⟩
    · rw [Tally.recorded, hnone]
      exact .nil
    · rw [hstep, append_textOf_nil]
      exact h
  cases hq : x.planners[i]? with
  | none =>
    have hi : n.started ≤ i := h.started ▸ List.getElem?_eq_none_iff.mp hq
    have hdead : n.isLive i = false := by simp [Tally.isLive, hi]
    exact quiet (by simp [step, hq]) (by rw [hdead, Bool.false_and])
  | some q =>
    have hi : i < n.started := h.started ▸ (List.getElem?_eq_some_iff.mp hq).1
    have hstep : x.step s (.call i c) = { x with host := c.make q x.host } := by simp [step, hq]
    cases hc : c.isRouted with
    | false =>
      exact quiet (by rw [hstep, q.make_of_not_isRouted x.host hc]) (by rw [hc, Bool.and_false])
    | true =>
      rcases Nat.lt_or_ge i n.retired with hlt | hle
      · obtain ⟨k, hk, hclosed⟩ := h.retired i q hq hlt
        obtain ⟨e, -, hmake⟩ := hk.make x.host hc
        have hdead : n.isLive i = false := by simp [Tally.isLive, Nat.not_le.mpr hlt]
        refine quiet ?_ (by rw [hdead, Bool.false_and])
        rw [hstep, hmake, EventStore.record_of_isClosed hclosed]
      · obtain ⟨e, hreport, hrecord⟩ := h.record hq hle hc
        rw [← hstep] at hrecord
        refine ⟨[e], ?_, hrecord⟩
        simp [Tally.recorded, Tally.isLive, hle, hi, hc, Report, hreport, hreport.kind_mem]

theorem step_write_of_quiet {i : Nat} {q : TurnPlanner} (hq : x.planners[i]? = some q)
    (hlog : q.log? = some k) (hquiet : x.host.events.writeNext k x.host.files x.host.directory =
      (x.host.events, x.host.files, [])) : x.step s (.write i) = x := by
  simp [step, hq, hlog, Host.writeNext, hquiet]

/-- A turn of a writer moves an event from the log to the file. -/
theorem Invariant.write (h : Invariant s p expected n x) (i : Nat) :
    Invariant s p expected n (x.step s (.write i)) := by
  cases hq : x.planners[i]? with
  | none => simpa [step, hq] using h
  | some q =>
    have hi : i < n.started := h.started ▸ (List.getElem?_eq_some_iff.mp hq).1
    rcases Nat.lt_or_ge i n.retired with hlt | hle
    · obtain ⟨k, hk, hclosed⟩ := h.retired i q hq hlt
      rwa [step_write_of_quiet hq hk.log? (EventStore.writeNext_of_isClosed hclosed _ _)]
    · obtain ⟨queue, hholds, hcontent⟩ := h.content
      cases hholds with
      | idle hall hshared => omega
      | shares hlt k queue sink hshares hreaches hlive =>
        have hlog := (hlive i q hq hle).log?
        cases queue with
        | nil => rwa [step_write_of_quiet hq hlog (hshares.writeNext_nil _ _)]
        | cons e queue =>
          obtain ⟨u, hnext, hready, hadds⟩ := hshares.writeNext hreaches
          simp only [step, hq, Option.bind_some, hlog, Host.writeNext, hnext]
          refine ⟨h.started, h.le, h.running, hready.writable,
            h.retired.mono fun j hj => hj.of_set (hj.ne hshares) rfl, queue,
            .shares hlt k queue (some p) ⟨hshares.shared, List.getElem?_set_self hshares.lt⟩
              (.opened hready) hlive, ?_⟩
          rw [hadds.content_self, ByteArray.append_assoc, ← EventLog.textOf_append,
            List.singleton_append, hcontent]

theorem Invariant.content_of_all_retired (h : Invariant s p expected n x)
    (hretired : n.retired = n.started) : x.host.files.contentAt p = expected := by
  obtain ⟨queue, hholds, hcontent⟩ := h.content
  cases hholds with
  | idle hall hshared => rw [← hcontent, append_textOf_nil]
  | shares hlt k queue sink hshares hreaches hlive => omega

/-- A shutdown writes what was held back. -/
theorem Invariant.shutdown (h : Invariant s p expected n x) :
    Invariant s p expected (n.next .shutdown) (x.step s .shutdown) ∧
      (x.step s .shutdown).host.files.contentAt p = expected := by
  obtain ⟨queue, hholds, hcontent⟩ := h.content
  cases hholds with
  | idle hall hshared =>
    have hstep : x.step s .shutdown = x := by
      simp [step, Host.shutdown, EventStore.shutdown_of_shared_eq_nil hshared]
    have hnext : n.next .shutdown = n := congrArg (Tally.mk n.started) hall.symm
    rw [hstep, hnext]
    exact ⟨h, by rw [← hcontent, append_textOf_nil]⟩
  | shares hlt k queue sink hshares hreaches hlive =>
    obtain ⟨hevents, hfiles⟩ := hshares.shutdown x.host.files x.host.directory
    obtain ⟨u, hwrite, hu, hadds⟩ := hreaches.write queue
    have hstep : x.step s .shutdown = { x with host := { x.host with
        events := (x.host.events.shutdown x.host.files x.host.directory).1
        files := u } } := by
      rw [hwrite] at hfiles
      simp only [step, Host.shutdown, hfiles]
    have hretired : Retired s (x.host.events.shutdown x.host.files x.host.directory).1 x.planners
        n.started :=
      (h.retired.mono fun k hk => hk.shutdown hshares).all hlive hshares.isClosed_shutdown _
    rw [hstep]
    refine ⟨⟨h.started, Nat.le_refl _, ?_, hu, hretired, [], .idle rfl ?_, ?_⟩, ?_⟩
    · rw [hevents]
      exact h.running
    · rw [hevents]
    · rw [append_textOf_nil, hadds.content_self, hcontent]
    · rw [hadds.content_self, hcontent]

section Recording

variable (hrouting : s.routing.enabled = true) (hanalytics : s.routing.analytics.enabled = true)
include hrouting hanalytics

theorem Invariant.step (h : Invariant s p expected n x) (a : SessionStep) :
    ∃ events, Report s (n.recorded a) events ∧
      Invariant s p (expected ++ (EventLog.textOf events).toUTF8) (n.next a) (x.step s a) := by
  cases a with
  | start => exact ⟨[], .nil, by
      rw [append_textOf_nil]
      exact h.start hrouting hanalytics⟩
  | call i c => exact h.call i c
  | write i => exact ⟨[], .nil, by
      rw [append_textOf_nil]
      exact h.write i⟩
  | shutdown => exact ⟨[], .nil, by
      rw [append_textOf_nil]
      exact h.shutdown.1⟩

theorem Invariant.run (h : Invariant s p expected n x) (steps : List SessionStep) :
    ∃ events, Report s (recordedCalls n steps) events ∧
      Invariant s p (expected ++ (EventLog.textOf events).toUTF8) (steps.foldl Tally.next n)
        (x.run s steps) := by
  induction steps generalizing x n expected with
  | nil => exact ⟨[], .nil, by
      rw [append_textOf_nil]
      exact h⟩
  | cons a steps ih =>
    obtain ⟨events, hreport, hstep⟩ := h.step hrouting hanalytics a
    obtain ⟨later, hlater, hrun⟩ := ih hstep
    refine ⟨events ++ later, List.rel_append hreport hlater, ?_⟩
    rw [EventLog.textOf_append, ← ByteArray.append_assoc]
    exact hrun

end Recording

theorem invariant_initial {h : Host} (hshared : h.events.shared = [])
    (hrunning : h.events.isRunning = true)
    (hwritable : EventLog.Writable h.files h.directory (path s h) p) :
    Invariant s p (h.files.contentAt p) {} ⟨h, []⟩ where
  started := rfl
  le := Nat.le_refl 0
  running := hrunning
  writable := hwritable
  retired := fun i _ _ hi => absurd hi (Nat.not_lt_zero i)
  content := ⟨[], .idle rfl hshared, append_textOf_nil _⟩

theorem run_append (x : Session) (steps later : List SessionStep) :
    x.run s (steps ++ later) = (x.run s steps).run s later := List.foldl_append

/-- Without a new planner, nothing is recorded after a shutdown. -/
theorem recordedCalls_of_all_retired (hretired : n.retired = n.started)
    (hstart : ∀ a ∈ later, a ≠ .start) :
    recordedCalls n later = [] ∧ later.foldl Tally.next n = n := by
  induction later with
  | nil => exact ⟨rfl, rfl⟩
  | cons a later ih =>
    have hnext : n.recorded a = [] ∧ n.next a = n := by
      cases a with
      | start => exact absurd rfl (hstart _ List.mem_cons_self)
      | call i c =>
        have hdead : n.isLive i = false := by
          simp [Tally.isLive, hretired]
        simp [Tally.recorded, Tally.next, hdead]
      | write i => exact ⟨rfl, rfl⟩
      | shutdown => exact ⟨rfl, congrArg (Tally.mk n.started) hretired.symm⟩
    obtain ⟨hrecorded, htally⟩ := ih fun b hb => hstart b (List.mem_cons_of_mem a hb)
    rw [recordedCalls, hnext.1, List.foldl_cons, hnext.2]
    exact ⟨hrecorded, htally⟩

/-- No planner has a log that takes events. -/
structure Quiet (s : Config.Settings) (files : FileTree) (x : Session) : Prop where
  files : x.host.files = files
  off : s.routing.enabled = false ∨ s.routing.analytics.enabled = false ∨
    x.host.events.isRunning = false
  shared : ∀ m ∈ x.host.events.shared, x.host.events.IsClosed m.2
  planners : ∀ q ∈ x.planners, (∀ r ∈ q.router, r.log = none) ∨
    ∃ k, q.LogsTo s k ∧ x.host.events.IsClosed k

theorem Quiet.start {files : FileTree} (h : Quiet s files x) : Quiet s files (x.step s .start) := by
  by_cases hon : s.routing.enabled = true ∧ s.routing.analytics.enabled = true
  · have hquiet : x.host.events.IsQuiet := ⟨by simpa [hon.1, hon.2] using h.off, h.shared⟩
    obtain ⟨hlogs, hhost⟩ := TurnPlanner.logsTo_start x.host hon.1 hon.2
    obtain ⟨hnext, hclosed, hkeep⟩ := hquiet.logFor (path s x.host)
    have hstep : x.step s .start =
        ⟨{ x.host with events := (x.host.events.logFor (path s x.host)).1 },
          x.planners ++ [(TurnPlanner.start x.host s).1]⟩ := by
      rw [path, ← hhost]
      rfl
    rw [hstep]
    refine ⟨h.files, .inr (.inr hnext.stopped), hnext.shared, fun q hq => ?_⟩
    rcases List.mem_append.mp hq with hq | hq
    · rcases h.planners q hq with hnone | ⟨k, hk, hc⟩
      · exact .inl hnone
      · exact .inr ⟨k, hk, hkeep k hc⟩
    · obtain rfl := List.mem_singleton.mp hq
      exact .inr ⟨_, hlogs, hclosed⟩
  · have hoff : s.routing.enabled = false ∨ s.routing.analytics.enabled = false := by
      simpa only [not_and_or, Bool.not_eq_true] using hon
    obtain ⟨hnone, hhost⟩ := TurnPlanner.start_of_disabled x.host hoff
    have hstep : x.step s .start = ⟨x.host, x.planners ++ [(TurnPlanner.start x.host s).1]⟩ :=
      congrArg (Session.mk · (x.planners ++ [(TurnPlanner.start x.host s).1])) hhost
    rw [hstep]
    refine ⟨h.files, h.off, h.shared, fun q hq => ?_⟩
    rcases List.mem_append.mp hq with hq | hq
    · exact h.planners q hq
    · obtain rfl := List.mem_singleton.mp hq
      exact .inl hnone

theorem Quiet.call {files : FileTree} (h : Quiet s files x) (i : Nat) (c : Call) :
    x.step s (.call i c) = x := by
  cases hq : x.planners[i]? with
  | none => simp [step, hq]
  | some q =>
    have hmake : c.make q x.host = x.host := by
      rcases h.planners q (List.mem_of_getElem? hq) with hnone | ⟨k, hk, hclosed⟩
      · exact q.make_of_no_log hnone x.host
      · cases hc : c.isRouted with
        | false => exact q.make_of_not_isRouted x.host hc
        | true =>
          obtain ⟨e, -, hmake⟩ := hk.make x.host hc
          rw [hmake, EventStore.record_of_isClosed hclosed]
    simp [step, hq, hmake]

theorem Quiet.write {files : FileTree} (h : Quiet s files x) (i : Nat) :
    x.step s (.write i) = x := by
  cases hq : x.planners[i]? with
  | none => simp [step, hq]
  | some q =>
    rcases h.planners q (List.mem_of_getElem? hq) with hnone | ⟨k, hk, hclosed⟩
    · simp [step, hq, TurnPlanner.log?_of_no_log hnone]
    · exact step_write_of_quiet hq hk.log? (EventStore.writeNext_of_isClosed hclosed _ _)

theorem Quiet.shutdown {files : FileTree} (h : Quiet s files x) :
    Quiet s files (x.step s .shutdown) := by
  have hstep : x.step s .shutdown =
      { x with host := { x.host with events := { x.host.events with shared := [] } } } := by
    simp [step, Host.shutdown, EventStore.shutdown_of_isClosed h.shared]
  rw [hstep]
  exact ⟨h.files, h.off, by simp, h.planners⟩

theorem Quiet.run {files : FileTree} (h : Quiet s files x) (steps : List SessionStep) :
    Quiet s files (x.run s steps) := by
  induction steps generalizing x with
  | nil => exact h
  | cons a steps ih =>
    refine ih ?_
    cases a with
    | start => exact h.start
    | call i c =>
      rw [h.call i c]
      exact h
    | write i =>
      rw [h.write i]
      exact h
    | shutdown => exact h.shutdown

/-- What a session leaves in the file for events, once a shutdown ends it. -/
structure Written (s : Config.Settings) (h : Host) (p : Place) (steps : List SessionStep)
    (events : List Event) (y : Session) : Prop where
  run : run s ⟨h, []⟩ (steps ++ [.shutdown]) = y
  /-- Every recorded call has its event, in the order of the calls. -/
  report : Report s (recordedCalls {} steps) events
  /-- Every event has one line, after what the file had before. -/
  lines : Text.splitAt '\n' (EventLog.textOf events).toList = events.map (·.json.chars) ++ [[]]
  content : y.host.files.contentAt p =
    h.files.contentAt p ++ (EventLog.textOf events).toUTF8
  /-- Nothing that is asked of the same planners adds to it. -/
  nothing_later : ∀ later : List SessionStep, (∀ a ∈ later, a ≠ .start) →
    (y.run s later).host.files.contentAt p = y.host.files.contentAt p
  /-- Planners that are started later append. -/
  appended : ∀ later, ∃ more,
    Report s (recordedCalls ⟨y.planners.length, y.planners.length⟩ later) more ∧
    (y.run s (later ++ [.shutdown])).host.files.contentAt p =
      y.host.files.contentAt p ++ (EventLog.textOf more).toUTF8

/-- Where events are asked for and something runs that writes them, they get into the file. Where
not, no file changes. -/
theorem events_written {h : Host} (hshared : h.events.shared = []) (s : Config.Settings)
    (steps : List SessionStep) :
    (s.routing.enabled = true → s.routing.analytics.enabled = true → h.events.isRunning = true →
      ∀ p, EventLog.Writable h.files h.directory (path s h) p →
        ∃ events y, Written s h p steps events y) ∧
    (s.routing.enabled = false ∨ s.routing.analytics.enabled = false ∨
      h.events.isRunning = false → (run s ⟨h, []⟩ steps).host.files = h.files) := by
  refine ⟨fun hrouting hanalytics hrunning p hwritable => ?_, fun hoff => ?_⟩
  · obtain ⟨events, hreport, hrun⟩ :=
      (invariant_initial hshared hrunning hwritable).run hrouting hanalytics steps
    obtain ⟨hclosed, hcontent⟩ := hrun.shutdown
    have hall : (steps.foldl Tally.next {}).next .shutdown =
        ⟨(run s ⟨h, []⟩ steps).planners.length, (run s ⟨h, []⟩ steps).planners.length⟩ := by
      rw [hrun.started]
      rfl
    rw [hall] at hclosed
    refine ⟨events, _, run_append _ _ _, hreport, EventLog.splitAt_textOf events, hcontent,
      fun later hstart => ?_, fun later => ?_⟩
    · obtain ⟨more, hmore, hlater⟩ := hclosed.run hrouting hanalytics later
      obtain ⟨hnone, htally⟩ := recordedCalls_of_all_retired (n := ⟨_, _⟩) rfl hstart
      rw [hnone] at hmore
      cases hmore
      rw [htally, append_textOf_nil] at hlater
      exact (hlater.content_of_all_retired rfl).trans hcontent.symm
    · obtain ⟨more, hmore, hlater⟩ := hclosed.run hrouting hanalytics later
      refine ⟨more, hmore, ?_⟩
      rw [run_append]
      exact hlater.shutdown.2.trans (congrArg (· ++ _) hcontent.symm)
  · have hquiet : Quiet s h.files ⟨h, []⟩ := ⟨rfl, hoff, by simp [hshared], by simp⟩
    exact (hquiet.run steps).files

/-- Settings that switch routing on or off and name the file for events. -/
def settingsFor (routes : Bool) : Config.Settings :=
  { routing := { enabled := routes, analytics := { path := some "events.jsonl" } } }

def emptyHost : Host := { files := {}, directory := [], env := ⟨[]⟩ }

theorem events_written_or_not :
    (∃ events y, Written (settingsFor true) emptyHost ["events.jsonl".toList]
      [.start, .call 0 (.plan "12:00" { message := "hello" }), .start,
        .call 1 (.plan "12:01" { message := "thanks" })] events y) ∧
    (run (settingsFor false) ⟨emptyHost, []⟩
      [.start, .call 0 (.plan "12:00" { message := "hello" }), .shutdown]).host.files =
        emptyHost.files := by
  have hwritable : EventLog.Writable emptyHost.files emptyHost.directory
      (path (settingsFor true) emptyHost) ["events.jsonl".toList] := rfl
  exact ⟨(events_written rfl _ _).1 rfl rfl rfl _ hwritable,
    (events_written rfl (settingsFor false) _).2 (.inl rfl)⟩

end Session
end TierRouting
