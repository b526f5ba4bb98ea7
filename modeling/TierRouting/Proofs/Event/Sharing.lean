import TierRouting.Event.Store
import TierRouting.Proofs.Event.Writing

/-! What the operations of a program's logs do to the one that is shared for a path. -/
namespace TierRouting.EventStore

variable {s t : EventStore} {path : String} {i k : Nat} {l : EventLog} {e : Event}
  {queue : List Event} {sink : Option Place} {files : FileTree} {directory p : Place}

/-- The log with a number takes nothing any more. -/
def IsClosed (s : EventStore) (k : Nat) : Prop := ∃ path, s.logs[k]? = some ⟨path, .closed⟩

/-- One log is shared; it has taken events that are not written yet. -/
structure Shares (s : EventStore) (path : String) (k : Nat) (queue : List Event)
    (sink : Option Place) : Prop where
  shared : s.shared = [(Path.components path, k)]
  log : s.logs[k]? = some ⟨path, .accepting queue sink⟩

theorem Shares.lt (h : s.Shares path k queue sink) : k < s.logs.length :=
  (List.getElem?_eq_some_iff.mp h.log).1

theorem set_of_getElem? {logs : List EventLog} (h : logs[k]? = some l) : logs.set k l = logs := by
  obtain ⟨hk, rfl⟩ := List.getElem?_eq_some_iff.mp h
  exact List.set_getElem_self hk

theorem record_of_isClosed (h : s.IsClosed k) (e : Event) : (s.record k e).1 = s := by
  obtain ⟨path, hlog⟩ := h
  simp only [record, hlog, EventLog.record, set_of_getElem? hlog]

theorem Shares.record_eq (h : s.Shares path k queue sink) (e : Event) : (s.record k e).1 =
    { s with logs := s.logs.set k ⟨path, .accepting (queue ++ [e]) sink⟩ } := by
  simp only [EventStore.record, h.log, EventLog.record]

theorem Shares.record (h : s.Shares path k queue sink) (e : Event) :
    (s.record k e).1.Shares path k (queue ++ [e]) sink := by
  rw [h.record_eq]
  exact ⟨h.shared, List.getElem?_set_self h.lt⟩

theorem IsClosed.of_append (h : s.IsClosed i) (hlogs : t.logs = s.logs ++ [l]) :
    t.IsClosed i := by
  obtain ⟨path, hlog⟩ := h
  refine ⟨path, ?_⟩
  rw [hlogs, List.getElem?_append_left (List.getElem?_eq_some_iff.mp hlog).1, hlog]

theorem IsClosed.of_set (h : s.IsClosed i) (hne : k ≠ i) (hlogs : t.logs = s.logs.set k l) :
    t.IsClosed i := by
  obtain ⟨path, hlog⟩ := h
  refine ⟨path, ?_⟩
  rw [hlogs, List.getElem?_set_ne hne, hlog]

/-- A log that is closed is not the one that takes events. -/
theorem IsClosed.ne (h : s.IsClosed i) (hk : s.Shares path k queue sink) : k ≠ i := by
  rintro rfl
  obtain ⟨_, hlog⟩ := h
  rw [hk.log] at hlog
  cases hlog

theorem IsClosed.record (h : s.IsClosed i) (hk : s.Shares path k queue sink) (e : Event) :
    (s.record k e).1.IsClosed i := by
  rw [hk.record_eq]
  exact h.of_set (h.ne hk) rfl

theorem logFor_of_shared_eq_nil (path : String) (h : s.shared = [])
    (hrunning : s.isRunning = true) :
    (s.logFor path).1 = { s with
      logs := s.logs ++ [⟨path, .accepting [] none⟩]
      shared := [(Path.components path, s.logs.length)] } ∧
    (s.logFor path).2.1 = s.logs.length := by
  simp [logFor, sharedFor?, openLog, h, hrunning]

theorem shares_logFor (path : String) (h : s.shared = []) (hrunning : s.isRunning = true) :
    (s.logFor path).1.Shares path (s.logFor path).2.1 [] none := by
  obtain ⟨hstore, hnumber⟩ := logFor_of_shared_eq_nil path h hrunning
  rw [hstore, hnumber]
  exact ⟨rfl, List.getElem?_concat_length⟩

theorem IsClosed.logFor (hi : s.IsClosed i) (h : s.shared = []) (hrunning : s.isRunning = true) :
    (s.logFor path).1.IsClosed i := by
  rw [(logFor_of_shared_eq_nil path h hrunning).1]
  exact hi.of_append rfl

/-- The second planner for a path gets the log of the first. -/
theorem Shares.logFor (h : s.Shares path k queue sink) : s.logFor path = (s, k, []) := by
  simp [EventStore.logFor, sharedFor?, h.shared]

theorem writeNext_of_isClosed (h : s.IsClosed k) (files : FileTree) (directory : Place) :
    s.writeNext k files directory = (s, files, []) := by
  obtain ⟨path, hlog⟩ := h
  simp only [writeNext, work, hlog, EventLog.writeNext, set_of_getElem? hlog]

/-- The writer of the shared log has its turn: the event that has waited longest is appended. -/
theorem Shares.writeNext (h : s.Shares path k (e :: queue) sink)
    (hreaches : EventLog.Reaches files directory path p sink) :
    ∃ u, s.writeNext k files directory =
        ({ s with logs := s.logs.set k ⟨path, .accepting queue (some p)⟩ }, u, []) ∧
      EventLog.Ready u directory path p ∧
      FileTree.Adds files u p (EventLog.textOf [e]).toUTF8 := by
  obtain ⟨u, hwrite, hready, hadds⟩ := hreaches.writeEvent e
  refine ⟨u, ?_, hready, hadds⟩
  simp only [EventStore.writeNext, work, h.log, EventLog.writeNext, hwrite]

/-- Without waiting events there is nothing to do. -/
theorem Shares.writeNext_nil (h : s.Shares path k [] sink) (files : FileTree)
    (directory : Place) : s.writeNext k files directory = (s, files, []) := by
  simp only [EventStore.writeNext, work, h.log, EventLog.writeNext, set_of_getElem? h.log]

/-- The shared log is closed and its events are written. -/
theorem Shares.shutdown (h : s.Shares path k queue sink) (files : FileTree) (directory : Place) :
    (s.shutdown files directory).1 =
      { s with logs := s.logs.set k ⟨path, .closed⟩, shared := [] } ∧
    (s.shutdown files directory).2.1 = (EventLog.write files directory path sink queue).1 := by
  simp [EventStore.shutdown, closeAll, close, work, h.shared, h.log, EventLog.close]

theorem Shares.isClosed_shutdown (h : s.Shares path k queue sink) :
    (s.shutdown files directory).1.IsClosed k := by
  rw [(h.shutdown files directory).1]
  exact ⟨path, List.getElem?_set_self h.lt⟩

theorem IsClosed.shutdown (hi : s.IsClosed i) (h : s.Shares path k queue sink) :
    (s.shutdown files directory).1.IsClosed i := by
  rw [(h.shutdown files directory).1]
  exact hi.of_set (hi.ne h) rfl

theorem closeAll_of_isClosed {numbers : List Nat} (h : ∀ k ∈ numbers, s.IsClosed k)
    (files : FileTree) (directory : Place) :
    s.closeAll files directory numbers = (s, files, []) := by
  induction numbers with
  | nil => rfl
  | cons k numbers ih =>
    obtain ⟨path, hlog⟩ := h k List.mem_cons_self
    have hclose : s.close k files directory = (s, files, []) := by
      simp only [close, work, hlog, EventLog.close, set_of_getElem? hlog]
    rw [closeAll, hclose]
    simp only [ih fun i hi => h i (List.mem_cons_of_mem k hi), List.append_nil]

/-- Nothing writes to the logs, and those that are shared are closed. -/
structure IsQuiet (s : EventStore) : Prop where
  stopped : s.isRunning = false
  shared : ∀ m ∈ s.shared, s.IsClosed m.2

/-- While nothing writes, a planner gets a log that is closed. -/
theorem IsQuiet.logFor (h : s.IsQuiet) (path : String) : (s.logFor path).1.IsQuiet ∧
    (s.logFor path).1.IsClosed (s.logFor path).2.1 ∧
    ∀ i, s.IsClosed i → (s.logFor path).1.IsClosed i := by
  unfold EventStore.logFor
  split
  · next k hk =>
    obtain ⟨m, hm, rfl⟩ := Option.map_eq_some_iff.mp hk
    exact ⟨h, h.shared m (List.mem_of_find?_eq_some hm), fun _ hi => hi⟩
  · have hopen : s.openLog path =
        ({ s with logs := s.logs ++ [⟨path, .closed⟩] }, s.logs.length, [.logDisabled path]) := by
      simp [openLog, h.stopped]
    rw [hopen]
    have hkeep (i : Nat) (hi : s.IsClosed i) (shared : List (List Path.Component × Nat)) :
        IsClosed { s with logs := s.logs ++ [⟨path, .closed⟩], shared := shared } i :=
      hi.of_append rfl
    refine ⟨⟨h.stopped, fun m hm => ?_⟩, ⟨path, List.getElem?_concat_length⟩,
      fun i hi => hkeep i hi _⟩
    rcases List.mem_append.mp hm with hm | hm
    · exact hkeep m.2 (h.shared m hm) _
    · obtain rfl := List.mem_singleton.mp hm
      exact ⟨path, List.getElem?_concat_length⟩

theorem shutdown_of_isClosed (h : ∀ m ∈ s.shared, s.IsClosed m.2) (files : FileTree)
    (directory : Place) :
    s.shutdown files directory = ({ s with shared := [] }, files, []) := by
  refine closeAll_of_isClosed (s := { s with shared := [] }) (fun k hk => ?_) files directory
  obtain ⟨m, hm, rfl⟩ := List.mem_map.mp hk
  exact h m hm

theorem shutdown_of_shared_eq_nil (h : s.shared = []) (files : FileTree) (directory : Place) :
    s.shutdown files directory = (s, files, []) := by
  have hsame : { s with shared := [] } = s := by rw [← h]
  rw [shutdown_of_isClosed (by simp [h]), hsame]

end TierRouting.EventStore
