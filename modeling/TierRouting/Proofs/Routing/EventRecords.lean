import TierRouting.Proofs.Event.Lines
import TierRouting.Proofs.Turn.Calls

/-! What the events of a router tell of its decisions. Whichever call an event is about, all that it
does not have to say of the call itself is what was recorded when the decision was made. -/
namespace TierRouting

variable {r : Router} {d : RoutingDecision} {e first : Event} {k i : Nat} {s : EventStore}

/-! ### Events that wait in a log -/

/-- The events that a log holds, if it takes any. -/
def EventLog.queue? (l : EventLog) : Option (List Event) :=
  match l.state with
  | .accepting queue _ => some queue
  | _ => none

theorem EventLog.queue?_record (l : EventLog) (e : Event) :
    (l.record e).1.queue? = l.queue?.map (· ++ [e]) := by
  obtain ⟨path, state⟩ := l
  cases state with
  | accepting queue sink => rfl
  | abandoned => rfl
  | closed => rfl

def EventStore.queue? (s : EventStore) (i : Nat) : Option (List Event) :=
  s.logs[i]?.bind EventLog.queue?

theorem EventStore.queue?_record (s : EventStore) (i : Nat) (e : Event) :
    (s.record i e).1.queue? i = (s.queue? i).map (· ++ [e]) := by
  cases hlog : s.logs[i]? with
  | none => simp [EventStore.record, queue?, hlog]
  | some l =>
    have hi := (List.getElem?_eq_some_iff.mp hlog).1
    have hrecord : (s.record i e).1.logs = s.logs.set i (l.record e).1 := by
      simp only [EventStore.record, hlog]
    rw [queue?, queue?, hrecord, List.getElem?_set_self hi, hlog]
    exact l.queue?_record e

/-! ### What a router is asked for -/

/-- What the host tells of a decision later on. -/
inductive Aftermath where
  | complete (latencyMs responseSize : Nat)
  | fallBack (m : ModelRef)

/-- Decisions are numbered in the order of the requests. -/
inductive RouterCall where
  | route (time : String) (q : RouteRequest)
  | report (time : String) (k : Nat) (a : Aftermath)

def Aftermath.event (a : Aftermath) (r : Router) (time : String) (d : RoutingDecision) : Event :=
  match a with
  | complete latencyMs responseSize => r.completionEvent time d latencyMs responseSize
  | fallBack m => r.fallbackEvent time d m

namespace RouterCall

/-- The number of the decision that a call is about, if `n` decisions have been made. -/
def about? (n : Nat) : RouterCall → Option Nat
  | route .. => some n
  | report _ k _ => if k < n then some k else none

/-- How many decisions there are after a call. -/
def next (n : Nat) : RouterCall → Nat
  | route .. => n + 1
  | report .. => n

def isRoute : RouterCall → Bool
  | route .. => true
  | report .. => false

/-- The kinds of event that may tell of a call. -/
def kinds : RouterCall → List EventKind
  | route .. => [.route, .budgetDowngrade, .override]
  | report _ _ (.complete ..) => [.complete]
  | report _ _ (.fallBack _) => [.fallback]

/-- The model that answered in place of the one of the decision. -/
def fallback? : RouterCall → Option ModelRef
  | report _ _ (.fallBack m) => some m
  | _ => none

/-- The calls about decisions that had been made, with the numbers of these. -/
def accounts : Nat → List RouterCall → List (Nat × RouterCall)
  | _, [] => []
  | n, c :: calls => ((c.about? n).map (·, c)).toList ++ accounts (c.next n) calls

end RouterCall

/-- What a router has decided, and the logs that it writes to. -/
structure Dealings where
  events : EventStore
  decisions : List RoutingDecision := []

namespace Dealings

def step (r : Router) (x : Dealings) : RouterCall → Dealings
  | .route time q =>
    let (d, events, _) := r.route x.events time q
    ⟨events, x.decisions ++ [d]⟩
  | .report time k a =>
    match x.decisions[k]? with
    | some d => { x with events := (r.record x.events (a.event r time d)).1 }
    | none => x

def run (r : Router) (x : Dealings) (calls : List RouterCall) : Dealings := calls.foldl (step r) x

end Dealings

/-! ### One event -/

/-- What the event of a call owes to the decision that the call is about, and to the event of the
routing, which is `first`. -/
structure Recounts (r : Router) (d : RoutingDecision) (first : Event) (c : RouterCall) (e : Event) :
    Prop where
  kind_mem : e.kind ∈ c.kinds
  endpoint : e.endpoint = r.endpoints.lookup e.model.provider
  cost_eq_none_iff : e.cost = none ↔ d.bypassed = true ∨ d.tier = .t0
  latencyMs_iff : e.latencyMs.isSome = true ↔ e.kind = .complete
  responseSize_iff : e.responseSize.isSome = true ↔ e.kind = .complete
  model : e.model = c.fallback?.getD first.model
  rest : e = { first with
    time := e.time, kind := e.kind, model := e.model, endpoint := e.endpoint
    latencyMs := e.latencyMs, responseSize := e.responseSize }

/-- What the line of an event shows of the decision. The length of a message is a word. -/
structure LineTells (d : RoutingDecision) (e : Event) : Prop where
  null_iff : d.context.messageLength < 2 ^ 64 →
    (e.json.get? "estimatedCostUsd" = some .null ↔ d.bypassed = true ∨ d.tier = .t0)
  latencyMs_iff : (e.json.get? "latencyMs").isSome = true ↔ e.kind = .complete
  responseSize_iff : (e.json.get? "responseSize").isSome = true ↔ e.kind = .complete

theorem Tier.inputCost?_eq_none_iff (t : Tier) (chars : Nat) :
    t.inputCost? chars = none ↔ t = .t0 := by
  simp [inputCost?]

theorem Router.endpointFor?_eq_lookup (r : Router) (provider : String) :
    r.endpointFor? provider = r.endpoints.lookup provider := by
  rw [endpointFor?]
  induction r.endpoints with
  | nil => rfl
  | cons entry entries ih =>
    have hcomm : (entry.1 == provider) = (provider == entry.1) := Bool.beq_comm
    rw [List.find?_cons, List.lookup_cons, hcomm]
    cases provider == entry.1 with
    | true => rfl
    | false => exact ih

theorem Router.cost_event_eq_none_iff (r : Router) (time : String) (kind : EventKind)
    (d : RoutingDecision) :
    (r.event time kind d).cost = none ↔ d.bypassed = true ∨ d.tier = .t0 := by
  rw [event, Event.ofDecision]
  cases d.bypassed with
  | true => simp
  | false => simp [Tier.inputCost?_eq_none_iff]

theorem recounts_route (r : Router) (d : RoutingDecision) (time : String) (q : RouteRequest) :
    Recounts r d (r.routeEvent time d) (.route time q) (r.routeEvent time d) := by
  have hkind : (r.routeEvent time d).kind ≠ .complete := by
    intro h
    have hmem : (r.routeEvent time d).kind ∈ [EventKind.route, .budgetDowngrade, .override] :=
      Call.routeKind_mem d
    rw [h] at hmem
    exact absurd hmem (by decide)
  exact
    { kind_mem := Call.routeKind_mem d
      endpoint := r.endpointFor?_eq_lookup _
      cost_eq_none_iff := r.cost_event_eq_none_iff time _ d
      latencyMs_iff := iff_of_false nofun hkind
      responseSize_iff := iff_of_false nofun hkind
      model := rfl
      rest := rfl }

/-- A fallback changes the provider, the model and the endpoint together. -/
theorem recounts_report (r : Router) (d : RoutingDecision) (routed time : String) (k : Nat)
    (a : Aftermath) :
    Recounts r d (r.routeEvent routed d) (.report time k a) (a.event r time d) := by
  cases a with
  | complete latencyMs responseSize =>
    exact
      { kind_mem := List.mem_singleton_self _
        endpoint := r.endpointFor?_eq_lookup _
        cost_eq_none_iff := r.cost_event_eq_none_iff time .complete d
        latencyMs_iff := iff_of_true rfl rfl
        responseSize_iff := iff_of_true rfl rfl
        model := rfl
        rest := rfl }
  | fallBack m =>
    exact
      { kind_mem := List.mem_singleton_self _
        endpoint := r.endpointFor?_eq_lookup _
        cost_eq_none_iff := r.cost_event_eq_none_iff time .fallback d
        latencyMs_iff := iff_of_false nofun nofun
        responseSize_iff := iff_of_false nofun nofun
        model := rfl
        rest := rfl }

theorem Aftermath.made (a : Aftermath) (r : Router) (time : String)
    (hlength : d.context.messageLength < 2 ^ 64) : (a.event r time d).Made := by
  cases a with
  | complete latencyMs responseSize =>
    exact .withCompletion _ _ (.ofDecision _ _ _ _ hlength)
  | fallBack m => exact .withModel _ _ (.ofDecision _ _ _ _ hlength)

theorem Recounts.lineTells {c : RouterCall} (h : Recounts r d first c e)
    (hmade : d.context.messageLength < 2 ^ 64 → e.Made) : LineTells d e where
  null_iff hlength :=
    (e.toldBy_json.cost_null_iff_of_made (hmade hlength)).trans h.cost_eq_none_iff
  latencyMs_iff := by
    have hmember : (e.json.get? "latencyMs").isSome = e.latencyMs.isSome := by
      simpa using congrArg Option.isSome e.toldBy_json.latencyMs
    rw [hmember, h.latencyMs_iff]
  responseSize_iff := by
    have hmember : (e.json.get? "responseSize").isSome = e.responseSize.isSome := by
      simpa using congrArg Option.isSome e.toldBy_json.responseSize
    rw [hmember, h.responseSize_iff]

/-! ### All events of a router -/

/-- An event, the call that it is about, and the number of the decision. -/
structure RecordedCall where
  number : Nat
  call : RouterCall
  event : Event

namespace Dealings

variable {x : Dealings} {ledger : List RecordedCall}

/-- The entry is about a decision that was made, and it agrees with the entry of its routing. -/
def Agrees (r : Router) (x : Dealings) (ledger : List RecordedCall) (a : RecordedCall) : Prop :=
  ∃ d, x.decisions[a.number]? = some d ∧
    ∃ first ∈ ledger, first.number = a.number ∧ first.call.isRoute = true ∧
      Recounts r d first.event a.call a.event ∧ LineTells d a.event

/-- What holds after every call: each decision has the event of its routing, and every event agrees
with one of these. -/
structure Accounted (r : Router) (s : EventStore) (i : Nat) (x : Dealings)
    (ledger : List RecordedCall) : Prop where
  queue : x.events.queue? i = (s.queue? i).map (· ++ ledger.map (·.event))
  routed : ∀ k d, x.decisions[k]? = some d → ∃ first ∈ ledger, ∃ time,
    first.number = k ∧ first.call.isRoute = true ∧ first.event = r.routeEvent time d
  agrees : ∀ a ∈ ledger, Agrees r x ledger a

/-- More decisions and more events take nothing away. -/
theorem Agrees.mono {y : Dealings} {a : RecordedCall} {more : List RecordedCall}
    (h : Agrees r x ledger a) (hdecisions : x.decisions <+: y.decisions) :
    Agrees r y (ledger ++ more) a := by
  obtain ⟨d, hd, first, hmem, hfirst⟩ := h
  obtain ⟨later, hlater⟩ := hdecisions
  have hlt := (List.getElem?_eq_some_iff.mp hd).1
  refine ⟨d, ?_, first, List.mem_append_left _ hmem, hfirst⟩
  rw [← hlater, List.getElem?_append_left hlt, hd]

theorem Accounted.queue_record (hlog : r.log = some i) (h : Accounted r s i x ledger)
    (a : RecordedCall) : (r.record x.events a.event).1.queue? i =
      (s.queue? i).map (· ++ (ledger ++ [a]).map (·.event)) := by
  have hrecord : (r.record x.events a.event).1 = (x.events.record i a.event).1 := by
    rw [Router.record, hlog]
  have happend : (· ++ [a.event]) ∘ (· ++ ledger.map (·.event)) =
      (· ++ (ledger ++ [a]).map (·.event)) := by
    funext queue
    simp
  rw [hrecord, EventStore.queue?_record, h.queue, Option.map_map, happend]

theorem Accounted.route (hlog : r.log = some i) (h : Accounted r s i x ledger) (time : String)
    (q : RouteRequest) : Accounted r s i (x.step r (.route time q))
      (ledger ++ [⟨x.decisions.length, .route time q, r.routeEvent time (r.outcome q).1⟩]) := by
  have hdecisions : (x.step r (.route time q)).decisions = x.decisions ++ [(r.outcome q).1] := rfl
  have hnew : (x.decisions ++ [(r.outcome q).1])[x.decisions.length]? = some (r.outcome q).1 :=
    List.getElem?_concat_length
  refine ⟨h.queue_record hlog ⟨x.decisions.length, .route time q, _⟩, ?_, ?_⟩
  · intro k d hd
    rw [hdecisions] at hd
    rcases Nat.lt_or_ge k x.decisions.length with hk | hk
    · rw [List.getElem?_append_left hk] at hd
      obtain ⟨first, hmem, hfirst⟩ := h.routed k d hd
      exact ⟨first, List.mem_append_left _ hmem, hfirst⟩
    · have hlt := (List.getElem?_eq_some_iff.mp hd).1
      rw [List.length_append, List.length_singleton] at hlt
      obtain rfl : k = x.decisions.length := by omega
      obtain rfl := Option.some.inj (hnew.symm.trans hd)
      exact ⟨_, List.mem_append_right _ (List.mem_singleton_self _), time, rfl, rfl, rfl⟩
  · intro a ha
    rcases List.mem_append.mp ha with ha | ha
    · exact (h.agrees a ha).mono (hdecisions ▸ List.prefix_append _ _)
    · have hrecounts := recounts_route r (r.outcome q).1 time q
      rw [List.mem_singleton.mp ha]
      exact ⟨_, hnew, _, List.mem_append_right _ (List.mem_singleton_self _), rfl, rfl, hrecounts,
        hrecounts.lineTells fun hlength => .ofDecision _ _ _ _ hlength⟩

theorem Accounted.report (hlog : r.log = some i) (h : Accounted r s i x ledger) (time : String)
    (hd : x.decisions[k]? = some d) (a : Aftermath) :
    Accounted r s i { x with events := (r.record x.events (a.event r time d)).1 }
      (ledger ++ [⟨k, .report time k a, a.event r time d⟩]) := by
  refine ⟨h.queue_record hlog ⟨k, .report time k a, _⟩, ?_, ?_⟩
  · intro k' d' hd'
    obtain ⟨first, hmem, hfirst⟩ := h.routed k' d' hd'
    exact ⟨first, List.mem_append_left _ hmem, hfirst⟩
  · intro b hb
    rcases List.mem_append.mp hb with hb | hb
    · exact (h.agrees b hb).mono (List.prefix_refl _)
    · obtain ⟨first, hmem, routed, hnumber, hroute, hevent⟩ := h.routed k d hd
      have hrecounts := recounts_report r d routed time k a
      rw [List.mem_singleton.mp hb]
      refine ⟨d, hd, first, List.mem_append_left _ hmem, hnumber, hroute, ?_,
        hrecounts.lineTells (a.made r time)⟩
      rw [hevent]
      exact hrecounts

theorem Accounted.step (hlog : r.log = some i) (h : Accounted r s i x ledger) (c : RouterCall) :
    ∃ more : List RecordedCall, Accounted r s i (x.step r c) (ledger ++ more) ∧
      more.map (fun a => (a.number, a.call)) =
        ((c.about? x.decisions.length).map (·, c)).toList ∧
      (x.step r c).decisions.length = c.next x.decisions.length := by
  cases c with
  | route time q => exact ⟨_, h.route hlog time q, rfl, List.length_append⟩
  | report time k a =>
    cases hd : x.decisions[k]? with
    | none =>
      have hk := List.getElem?_eq_none_iff.mp hd
      have hstep : x.step r (.report time k a) = x := by simp only [Dealings.step, hd]
      have hnone : (RouterCall.report time k a).about? x.decisions.length = none :=
        if_neg (Nat.not_lt.mpr hk)
      rw [hstep, hnone]
      exact ⟨[], by rwa [List.append_nil], rfl, rfl⟩
    | some d =>
      have hk := (List.getElem?_eq_some_iff.mp hd).1
      have hstep : x.step r (.report time k a) =
          { x with events := (r.record x.events (a.event r time d)).1 } := by
        simp only [Dealings.step, hd]
      have hsome : (RouterCall.report time k a).about? x.decisions.length = some k := if_pos hk
      rw [hstep, hsome]
      exact ⟨_, h.report hlog time hd a, rfl, rfl⟩

theorem Accounted.run (hlog : r.log = some i) (h : Accounted r s i x ledger)
    (calls : List RouterCall) :
    ∃ more : List RecordedCall, Accounted r s i (x.run r calls) (ledger ++ more) ∧
      more.map (fun a => (a.number, a.call)) = RouterCall.accounts x.decisions.length calls := by
  induction calls generalizing x ledger with
  | nil => exact ⟨[], by rwa [List.append_nil], rfl⟩
  | cons c calls ih =>
    obtain ⟨more, hstep, hmore, hlength⟩ := h.step hlog c
    obtain ⟨later, hrun, hlater⟩ := ih hstep
    refine ⟨more ++ later, ?_, ?_⟩
    · rw [← List.append_assoc]
      exact hrun
    · rw [List.map_append, hmore, hlater, hlength]
      rfl

/-- Whatever a router is asked for, its log takes one event for each call about a decision that was
made, in the order of the calls. The event gives the address of the provider that it names, has a
price just when something is billed, has what only a completed call has to tell just when it is of
that kind, and is in all else what the routing of the same decision recorded. -/
theorem events_recount (hlog : r.log = some i) (s : EventStore) (calls : List RouterCall) :
    ∃ ledger : List RecordedCall,
      (run r ⟨s, []⟩ calls).events.queue? i = (s.queue? i).map (· ++ ledger.map (·.event)) ∧
      ledger.map (fun a => (a.number, a.call)) = RouterCall.accounts 0 calls ∧
      ∀ a ∈ ledger, Agrees r (run r ⟨s, []⟩ calls) ledger a := by
  have hstart : Accounted r s i ⟨s, []⟩ [] := by
    refine ⟨?_, fun k d hd => absurd hd nofun, fun a ha => absurd ha List.not_mem_nil⟩
    simp
  obtain ⟨ledger, hrun, hledger⟩ := hstart.run hlog calls
  exact ⟨ledger, hrun.queue, hledger, hrun.agrees⟩

/-- A router that knows where two providers are. -/
def reachable : Router where
  settings := { enabled := true }
  endpoints := [("ollama", "http://localhost:11434"), ("openai", "https://api.openai.com")]
  log := some 0

/-- A question that is answered, and then answered again by another provider. -/
def answeredTwice : List RouterCall :=
  [.route "12:00" { message := "what is SGD?" }, .report "12:01" 0 (.complete 5 7),
    .report "12:02" 0 (.fallBack ⟨"openai", "gpt-4o"⟩)]

theorem events_recount_answeredTwice :
    reachable.log = some 0 ∧ ∃ first second third : Event,
      (run reachable ⟨{ logs := [⟨"events.jsonl", .accepting [] none⟩] }, []⟩ answeredTwice).events.queue?
        0 = some [first, second, third] ∧
      second.kind = .complete ∧ second.latencyMs.isSome = true ∧
      third.kind = .fallback ∧ third.model = ⟨"openai", "gpt-4o"⟩ ∧
      third.endpoint = some "https://api.openai.com" ∧ third.latencyMs = none ∧
      third.cost = first.cost := by
  obtain ⟨ledger, hqueue, hcalls, hagrees⟩ := events_recount (r := reachable) rfl
    { logs := [⟨"events.jsonl", .accepting [] none⟩] } answeredTwice
  obtain ⟨first, rest, rfl, hfirst, hrest⟩ := List.map_eq_cons_iff.mp hcalls
  obtain ⟨second, rest, rfl, hsecond, hrest⟩ := List.map_eq_cons_iff.mp hrest
  obtain ⟨third, rest, rfl, hthird, hrest⟩ := List.map_eq_cons_iff.mp hrest
  obtain rfl := List.map_eq_nil_iff.mp hrest
  have hanswer := (Prod.mk.inj hsecond).2
  have hfallback := (Prod.mk.inj hthird).2
  -- only the first of the three entries is one of a routing
  have honly : ∀ a ∈ [first, second, third], a.call.isRoute = true → a = first := by
    intro a ha hroute
    rcases List.mem_cons.mp ha with rfl | ha
    · rfl
    · rcases List.mem_pair.mp ha with rfl | rfl
      · rw [hanswer] at hroute
        exact absurd hroute nofun
      · rw [hfallback] at hroute
        exact absurd hroute nofun
  obtain ⟨_, -, _, -, -, -, hcompleted, -⟩ := hagrees second (by simp)
  obtain ⟨_, -, a, ha, -, hroute, hreplaced, -⟩ := hagrees third (by simp)
  obtain rfl := honly a ha hroute
  rw [hanswer] at hcompleted
  rw [hfallback] at hreplaced
  have hcomplete := List.mem_singleton.mp hcompleted.kind_mem
  have hkind := List.mem_singleton.mp hreplaced.kind_mem
  have hmodel : third.event.model = ⟨"openai", "gpt-4o"⟩ := hreplaced.model
  refine ⟨rfl, a.event, second.event, third.event, hqueue, hcomplete,
    hcompleted.latencyMs_iff.mpr hcomplete, hkind, hmodel, ?_, ?_, ?_⟩
  · rw [hreplaced.endpoint, hmodel]
    decide
  · rw [← Option.not_isSome_iff_eq_none, hreplaced.latencyMs_iff, hkind]
    decide
  · rw [hreplaced.rest]

end Dealings
end TierRouting
