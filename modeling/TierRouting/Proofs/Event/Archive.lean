import Mathlib.Data.List.Nodup
import TierRouting.Proofs.Event.Sharing

/-! Calls on a program's logs and turns of their writers, in any order: which logs are shared, and
which ones are closed. -/
namespace TierRouting

/-- What is asked of a program's logs, and what their writers do in between. -/
inductive LogCall where
  /-- Asks for the log of a path while something runs that writes to it, or while nothing does. -/
  | logFor (running : Bool) (path : String)
  | record (i : Nat) (e : Event)
  /-- The writer of a log has its turn. -/
  | writeNext (i : Nat)
  | close (i : Nat)
  | shutdown

namespace EventStore

/-- The log of a path for one who asks for it. -/
def handOut (s : EventStore) (running : Bool) (path : String) : EventStore × Nat × List Notice :=
  { s with isRunning := running }.logFor path

def isActive (s : EventStore) (i : Nat) : Bool := s.logs[i]?.any (·.isActive)

end EventStore

/-- A program's logs with the files that they write to. -/
structure Archive where
  store : EventStore := {}
  files : FileTree := {}

namespace Archive

def step (directory : Place) (x : Archive) : LogCall → Archive
  | .logFor running path => { x with store := (x.store.handOut running path).1 }
  | .record i e => { x with store := (x.store.record i e).1 }
  | .writeNext i =>
    let (store, files, _) := x.store.writeNext i x.files directory
    ⟨store, files⟩
  | .close i =>
    let (store, files, _) := x.store.close i x.files directory
    ⟨store, files⟩
  | .shutdown =>
    let (store, files, _) := x.store.shutdown x.files directory
    ⟨store, files⟩

def run (directory : Place) (x : Archive) (calls : List LogCall) : Archive :=
  calls.foldl (step directory) x

/-- What calls leave if there are no logs before them. -/
def after (directory : Place) (files : FileTree) (calls : List LogCall) : Archive :=
  run directory { files := files } calls

end Archive

namespace EventLog

variable {l : EventLog}

theorem record_path (l : EventLog) (e : Event) : (l.record e).1.path = l.path := by
  unfold record
  split <;> rfl

theorem record_closed_iff {e : Event} : (l.record e).1.state = .closed ↔ l.state = .closed := by
  unfold record
  split
  · next h => simp [h]
  · rfl
  · rfl

theorem writeNext_path (l : EventLog) (files : FileTree) (directory : Place) :
    (l.writeNext files directory).1.path = l.path := by
  unfold writeNext
  split <;> rfl

theorem writeNext_closed_iff {files : FileTree} {directory : Place} :
    (l.writeNext files directory).1.state = .closed ↔ l.state = .closed := by
  unfold writeNext
  split
  · next h => simp [h]
  · rfl

theorem close_fst (l : EventLog) (files : FileTree) (directory : Place) :
    (l.close files directory).1 = ⟨l.path, .closed⟩ := by
  unfold close
  split <;> rfl

end EventLog

namespace EventStore

variable {s t : EventStore} {path : String} {running : Bool} {i k : Nat} {l : EventLog} {e : Event}
  {files : FileTree} {directory : Place} {key : List Path.Component}

/-- A log is handed out again, or a new one is. -/
theorem handOut_cases (s : EventStore) (running : Bool) (path : String) :
    (∃ i, s.sharedFor? path = some i ∧
      s.handOut running path = ({ s with isRunning := running }, i, [])) ∨
    (s.sharedFor? path = none ∧ ∃ notices, s.handOut running path = (
      { logs := s.logs ++ [⟨path, if running then .accepting [] none else .closed⟩]
        shared := s.shared ++ [(Path.components path, s.logs.length)]
        isRunning := running }, s.logs.length, notices)) := by
  have hsame : sharedFor? { s with isRunning := running } path = s.sharedFor? path := rfl
  unfold handOut logFor
  rw [hsame]
  cases s.sharedFor? path with
  | some i => exact .inl ⟨i, rfl, rfl⟩
  | none =>
    refine .inr ⟨rfl, ?_⟩
    cases running with
    | true => exact ⟨_, rfl⟩
    | false => exact ⟨_, rfl⟩

theorem record_fst (s : EventStore) (i : Nat) (e : Event) :
    (s.record i e).1 = { s with logs := s.logs.modify i fun l => (l.record e).1 } := by
  unfold EventStore.record
  split
  · next l hlog =>
    rw [List.modify_eq_set_getElem?, hlog]
    rfl
  · next hlog =>
    rw [List.getElem?_eq_none_iff] at hlog
    rw [List.modify_eq_self hlog]

theorem work_fst (s : EventStore) (i : Nat) (files : FileTree)
    (f : EventLog → EventLog × FileTree × List Notice) :
    (s.work i files f).1 = { s with logs := s.logs.modify i fun l => (f l).1 } := by
  unfold work
  split
  · next l hlog =>
    rw [List.modify_eq_set_getElem?, hlog]
    rfl
  · next hlog =>
    rw [List.getElem?_eq_none_iff] at hlog
    rw [List.modify_eq_self hlog]

theorem close_fst (s : EventStore) (i : Nat) (files : FileTree) (directory : Place) :
    (s.close i files directory).1 =
      { s with logs := s.logs.modify i fun l => ⟨l.path, .closed⟩ } := by
  simp only [EventStore.close, work_fst, EventLog.close_fst]

theorem isClosed_iff : s.IsClosed i ↔ ∃ l, s.logs[i]? = some l ∧ l.state = .closed := by
  constructor
  · exact fun ⟨path, hlog⟩ => ⟨_, hlog, rfl⟩
  · rintro ⟨⟨path, state⟩, hlog, rfl⟩
    exact ⟨path, hlog⟩

theorem IsClosed.lt (h : s.IsClosed i) : i < s.logs.length := by
  obtain ⟨path, hlog⟩ := h
  exact (List.getElem?_eq_some_iff.mp hlog).1

theorem IsClosed.isActive (h : s.IsClosed i) : s.isActive i = false := by
  obtain ⟨path, hlog⟩ := h
  rw [EventStore.isActive, hlog]
  rfl

theorem isActive_eq (hlog : s.logs[i]? = some l) : s.isActive i = l.isActive := by
  rw [EventStore.isActive, hlog, Option.any_some]

theorem isActive_of_length_le (hi : s.logs.length ≤ i) : s.isActive i = false := by
  rw [EventStore.isActive, List.getElem?_eq_none hi, Option.any_none]

theorem isActive_eq_false_iff (hi : i < s.logs.length) :
    s.isActive i = false ↔ s.IsClosed i := by
  refine ⟨fun h => ?_, IsClosed.isActive⟩
  have hlog := List.getElem?_eq_getElem hi
  rw [isActive_eq hlog, EventLog.isActive] at h
  split at h
  · next hstate => exact isClosed_iff.mpr ⟨_, hlog, hstate⟩
  · contradiction

def path? (s : EventStore) (i : Nat) : Option String := s.logs[i]?.map (·.path)

theorem path?_isSome_iff : (s.path? i).isSome = true ↔ i < s.logs.length := by
  simp [path?]

/-- A store follows another if logs of it have gone on, and nothing else has changed. -/
structure Follows (s t : EventStore) : Prop where
  shared : t.shared = s.shared
  length : t.logs.length = s.logs.length
  path? : ∀ i, t.path? i = s.path? i
  closed : ∀ i, s.IsClosed i → t.IsClosed i

theorem Follows.refl (s : EventStore) : Follows s s := ⟨rfl, rfl, fun _ => rfl, fun _ h => h⟩

theorem Follows.trans {u : EventStore} (h : Follows s t) (h' : Follows t u) : Follows s u where
  shared := h'.shared.trans h.shared
  length := h'.length.trans h.length
  path? i := (h'.path? i).trans (h.path? i)
  closed i hi := h'.closed i (h.closed i hi)

theorem follows_modify {f : EventLog → EventLog} (i : Nat) (hpath : ∀ l, (f l).path = l.path)
    (hstate : ∀ l, l.state = .closed → (f l).state = .closed) :
    Follows s { s with logs := s.logs.modify i f } where
  shared := rfl
  length := List.length_modify f s.logs i
  path? k := by
    rw [EventStore.path?, List.getElem?_modify]
    split
    · simp [EventStore.path?, hpath, Function.comp_def]
    · simp [EventStore.path?]
  closed k hk := by
    obtain ⟨l, hlog, hclosed⟩ := isClosed_iff.mp hk
    refine isClosed_iff.mpr ⟨if i = k then f l else l, ?_, ?_⟩
    · simp [List.getElem?_modify, hlog]
    · split
      · exact hstate l hclosed
      · exact hclosed

theorem follows_record (s : EventStore) (i : Nat) (e : Event) : Follows s (s.record i e).1 := by
  rw [record_fst]
  exact follows_modify i (fun l => l.record_path e) fun _ => EventLog.record_closed_iff.mpr

theorem follows_writeNext (s : EventStore) (i : Nat) (files : FileTree) (directory : Place) :
    Follows s (s.writeNext i files directory).1 := by
  rw [EventStore.writeNext, work_fst]
  exact follows_modify i (fun l => l.writeNext_path files directory)
    fun _ => EventLog.writeNext_closed_iff.mpr

theorem follows_close (s : EventStore) (i : Nat) (files : FileTree) (directory : Place) :
    Follows s (s.close i files directory).1 := by
  rw [close_fst]
  exact follows_modify i (fun _ => rfl) fun _ _ => rfl

theorem isClosed_handOut {s : EventStore} {running : Bool} {path : String} {k : Nat}
    (h : (s.handOut running path).1.IsClosed k) : s.IsClosed k ∨ s.logs.length ≤ k := by
  rcases handOut_cases s running path with ⟨i, -, heq⟩ | ⟨-, notices, heq⟩
  · rw [heq] at h
    exact .inl h
  · rw [heq] at h
    obtain ⟨p, hlog⟩ := h
    rcases Nat.lt_or_ge k s.logs.length with hk | hk
    · rw [List.getElem?_append_left hk] at hlog
      exact .inl ⟨p, hlog⟩
    · exact .inr hk

theorem path?_handOut {s : EventStore} {running : Bool} {path : String} {k : Nat}
    (hk : k < s.logs.length) : (s.handOut running path).1.path? k = s.path? k := by
  rcases handOut_cases s running path with ⟨i, -, heq⟩ | ⟨-, notices, heq⟩
  · rw [heq]
    rfl
  · rw [heq, EventStore.path?, List.getElem?_append_left hk, EventStore.path?]

theorem isClosed_modify_iff {f : EventLog → EventLog} (i : Nat)
    (hstate : ∀ l, (f l).state = .closed ↔ l.state = .closed) (k : Nat) :
    IsClosed { s with logs := s.logs.modify i f } k ↔ s.IsClosed k := by
  simp only [isClosed_iff, List.getElem?_modify]
  cases s.logs[k]? with
  | none => simp
  | some l =>
    by_cases hk : i = k
    · simp [hk, hstate]
    · simp [hk]

theorem isClosed_record_iff (s : EventStore) (i : Nat) (e : Event) (k : Nat) :
    (s.record i e).1.IsClosed k ↔ s.IsClosed k := by
  rw [record_fst]
  exact isClosed_modify_iff i (fun _ => EventLog.record_closed_iff) k

theorem isClosed_writeNext_iff (s : EventStore) (i : Nat) (files : FileTree) (directory : Place)
    (k : Nat) : (s.writeNext i files directory).1.IsClosed k ↔ s.IsClosed k := by
  rw [EventStore.writeNext, work_fst]
  exact isClosed_modify_iff i (fun _ => EventLog.writeNext_closed_iff) k

theorem isClosed_close_iff (s : EventStore) (i : Nat) (files : FileTree) (directory : Place)
    (k : Nat) : (s.close i files directory).1.IsClosed k ↔
      s.IsClosed k ∨ k = i ∧ i < s.logs.length := by
  constructor
  · intro h
    obtain ⟨l, hlog, hclosed⟩ := isClosed_iff.mp h
    rw [close_fst, List.getElem?_modify] at hlog
    obtain ⟨l', hlog', rfl⟩ := Option.map_eq_some_iff.mp hlog
    by_cases hk : i = k
    · subst hk
      exact .inr ⟨rfl, (List.getElem?_eq_some_iff.mp hlog').1⟩
    · rw [if_neg hk] at hclosed
      exact .inl (isClosed_iff.mpr ⟨l', hlog', hclosed⟩)
  · rintro (h | ⟨rfl, hk⟩)
    · exact (follows_close s i files directory).closed k h
    · rw [close_fst]
      exact ⟨s.logs[k].path, by simp [List.getElem?_eq_getElem hk]⟩

/-- Closing logs closes them, and no others are opened by it. -/
theorem follows_closeAll (s : EventStore) (files : FileTree) (directory : Place)
    (numbers : List Nat) : Follows s (s.closeAll files directory numbers).1 ∧
      ∀ i ∈ numbers, i < s.logs.length → (s.closeAll files directory numbers).1.IsClosed i := by
  induction numbers generalizing s files with
  | nil => exact ⟨.refl s, List.forall_mem_nil _⟩
  | cons k numbers ih =>
    have hclose := follows_close s k files directory
    obtain ⟨hrest, hclosed⟩ := ih (s.close k files directory).1 (s.close k files directory).2.1
    refine ⟨hclose.trans hrest, ?_⟩
    intro i hi hlt
    rcases List.mem_cons.mp hi with rfl | hi
    · exact hrest.closed i ((isClosed_close_iff s i files directory i).mpr (.inr ⟨rfl, hlt⟩))
    · exact hclosed i hi (hclose.length ▸ hlt)

/-- The shared logs have the paths that they are shared for, and every other log is closed. -/
structure Tidy (s : EventStore) : Prop where
  nodup : (s.shared.map (·.1)).Nodup
  named : ∀ key i, (key, i) ∈ s.shared → (s.path? i).map Path.components = some key
  retired : ∀ i < s.logs.length, (∀ key, (key, i) ∉ s.shared) → s.IsClosed i

theorem Tidy.follows (h : s.Tidy) (hst : Follows s t) : t.Tidy where
  nodup := hst.shared ▸ h.nodup
  named key i hi := by
    rw [hst.path? i]
    exact h.named key i (hst.shared ▸ hi)
  retired i hi hfree := by
    rw [hst.shared] at hfree
    exact hst.closed i (h.retired i (hst.length ▸ hi) hfree)

theorem sharedFor?_eq_some (h : s.sharedFor? path = some i) :
    (Path.components path, i) ∈ s.shared := by
  obtain ⟨m, hm, rfl⟩ := Option.map_eq_some_iff.mp h
  have hkey : m.1 = Path.components path := by simpa using List.find?_some hm
  rw [← hkey]
  exact List.mem_of_find?_eq_some hm

theorem sharedFor?_eq_none (h : s.sharedFor? path = none) :
    Path.components path ∉ s.shared.map (·.1) := by
  intro hkey
  obtain ⟨m, hm, hkey⟩ := List.mem_map.mp hkey
  rw [sharedFor?, Option.map_eq_none_iff, List.find?_eq_none] at h
  exact h m hm (by simp [hkey])

theorem Tidy.sharedFor? (h : s.Tidy) (hi : (Path.components path, i) ∈ s.shared) :
    s.sharedFor? path = some i := by
  cases hfound : s.sharedFor? path with
  | none => exact absurd (List.mem_map_of_mem hi) (sharedFor?_eq_none hfound)
  | some k =>
    have hsame := List.inj_on_of_nodup_map h.nodup (sharedFor?_eq_some hfound) hi rfl
    rw [(Prod.mk.inj hsame).2]

theorem Tidy.lt (h : s.Tidy) (hi : (key, i) ∈ s.shared) : i < s.logs.length := by
  obtain ⟨path, hpath, -⟩ := Option.map_eq_some_iff.mp (h.named key i hi)
  exact path?_isSome_iff.mp (hpath ▸ rfl)

theorem Tidy.handOut (h : s.Tidy) (running : Bool) (path : String) :
    (s.handOut running path).1.Tidy := by
  rcases handOut_cases s running path with ⟨k, -, heq⟩ | ⟨hnone, notices, heq⟩
  · rw [heq]
    exact ⟨h.nodup, h.named, h.retired⟩
  · rw [heq]
    refine ⟨?_, ?_, ?_⟩
    · rw [List.map_append, List.map_singleton, ← List.concat_eq_append]
      exact h.nodup.concat (sharedFor?_eq_none hnone)
    · intro key i hi
      rcases List.mem_append.mp hi with hi | hi
      · rw [path?, List.getElem?_append_left (h.lt hi)]
        exact h.named key i hi
      · obtain ⟨rfl, rfl⟩ := Prod.mk.inj (List.mem_singleton.mp hi)
        simp [path?]
    · intro i hi hfree
      have hne : i ≠ s.logs.length := by
        rintro rfl
        exact hfree (Path.components path) (by simp)
      rw [List.length_append, List.length_singleton] at hi
      refine (h.retired i (by omega) fun key hkey => ?_).of_append rfl
      exact hfree key (List.mem_append_left _ hkey)

theorem follows_shutdown (s : EventStore) (files : FileTree) (directory : Place) :
    Follows { s with shared := [] } (s.shutdown files directory).1 :=
  (follows_closeAll { s with shared := [] } files directory _).1

/-- Closing the shared logs closes all logs. -/
theorem Tidy.isClosed_shutdown (h : s.Tidy) (files : FileTree) (directory : Place)
    (hi : i < s.logs.length) : (s.shutdown files directory).1.IsClosed i := by
  by_cases hshared : i ∈ s.shared.map (·.2)
  · exact (follows_closeAll { s with shared := [] } files directory _).2 i hshared hi
  · refine (follows_shutdown s files directory).closed i (h.retired i hi fun key hkey => ?_)
    exact hshared (List.mem_map.mpr ⟨_, hkey, rfl⟩)

theorem tidy_of_shared_eq_nil (h : s.shared = []) (hclosed : ∀ i < s.logs.length, s.IsClosed i) :
    s.Tidy where
  nodup := by simp [h]
  named := by simp [h]
  retired i hi _ := hclosed i hi

end EventStore

namespace Archive

open EventStore

variable {x y : Archive} {directory : Place} {c : LogCall} {calls later : List LogCall}
  {i : Nat} {path : String} {running : Bool}

theorem run_cons : run directory x (c :: calls) = run directory (x.step directory c) calls := rfl

theorem run_append :
    run directory x (calls ++ later) = run directory (run directory x calls) later :=
  List.foldl_append

theorem after_append (directory : Place) (files : FileTree) (calls later : List LogCall) :
    after directory files (calls ++ later) =
      run directory (after directory files calls) later := run_append

theorem after_concat (directory : Place) (files : FileTree) (calls : List LogCall) (c : LogCall) :
    after directory files (calls ++ [c]) = (after directory files calls).step directory c :=
  run_append

@[simp] theorem shared_record (k : Nat) (e : Event) :
    (x.step directory (.record k e)).store.shared = x.store.shared :=
  (follows_record x.store k e).shared

@[simp] theorem shared_writeNext (k : Nat) :
    (x.step directory (.writeNext k)).store.shared = x.store.shared :=
  (follows_writeNext x.store k x.files directory).shared

@[simp] theorem shared_close (k : Nat) :
    (x.step directory (.close k)).store.shared = x.store.shared :=
  (follows_close x.store k x.files directory).shared

@[simp] theorem shared_shutdown : (x.step directory .shutdown).store.shared = [] :=
  (follows_shutdown x.store x.files directory).shared

theorem tidy_step (h : x.store.Tidy) (c : LogCall) : (x.step directory c).store.Tidy := by
  cases c with
  | logFor running path => exact h.handOut running path
  | record i e => exact h.follows (follows_record x.store i e)
  | writeNext i => exact h.follows (follows_writeNext x.store i x.files directory)
  | close i => exact h.follows (follows_close x.store i x.files directory)
  | shutdown =>
    have hfollows := follows_shutdown x.store x.files directory
    refine tidy_of_shared_eq_nil hfollows.shared fun i hi => ?_
    exact h.isClosed_shutdown x.files directory (hfollows.length ▸ hi)

theorem tidy_run (h : x.store.Tidy) (calls : List LogCall) :
    (run directory x calls).store.Tidy := by
  induction calls generalizing x with
  | nil => exact h
  | cons c calls ih => exact ih (tidy_step h c)

theorem tidy_after (directory : Place) (files : FileTree) (calls : List LogCall) :
    (after directory files calls).store.Tidy :=
  tidy_run (tidy_of_shared_eq_nil rfl (by simp)) calls

theorem length_le_step (c : LogCall) :
    x.store.logs.length ≤ (x.step directory c).store.logs.length := by
  cases c with
  | logFor running path =>
    rcases handOut_cases x.store running path with ⟨k, -, heq⟩ | ⟨-, notices, heq⟩
    · simp [step, heq]
    · simp [step, heq]
  | record k e => exact Nat.le_of_eq (follows_record x.store k e).length.symm
  | writeNext k =>
    exact Nat.le_of_eq (follows_writeNext x.store k x.files directory).length.symm
  | close k => exact Nat.le_of_eq (follows_close x.store k x.files directory).length.symm
  | shutdown => exact Nat.le_of_eq (follows_shutdown x.store x.files directory).length.symm

theorem length_le_run (calls : List LogCall) :
    x.store.logs.length ≤ (run directory x calls).store.logs.length := by
  induction calls generalizing x with
  | nil => exact Nat.le_refl _
  | cons c calls ih => exact Nat.le_trans (length_le_step c) ih

/-- A log that is closed stays so. -/
theorem isClosed_step (h : x.store.IsClosed i) (c : LogCall) :
    (x.step directory c).store.IsClosed i := by
  cases c with
  | logFor running path =>
    rcases handOut_cases x.store running path with ⟨k, -, heq⟩ | ⟨-, notices, heq⟩
    · rw [step, heq]
      exact h
    · rw [step, heq]
      exact h.of_append rfl
  | record k e => exact (follows_record x.store k e).closed i h
  | writeNext k => exact (follows_writeNext x.store k x.files directory).closed i h
  | close k => exact (follows_close x.store k x.files directory).closed i h
  | shutdown => exact (follows_shutdown x.store x.files directory).closed i h

theorem isClosed_run (h : x.store.IsClosed i) (calls : List LogCall) :
    (run directory x calls).store.IsClosed i := by
  induction calls generalizing x with
  | nil => exact h
  | cons c calls ih => exact ih (isClosed_step h c)

/-- Apart from the closing of all logs, only its own closing closes a log. -/
theorem isClosed_step_iff (hshutdown : c ≠ .shutdown) (hrunning : ∀ path, c ≠ .logFor false path) :
    (x.step directory c).store.IsClosed i ↔
      x.store.IsClosed i ∨ c = .close i ∧ i < x.store.logs.length := by
  cases c with
  | logFor running path =>
    have hclose : LogCall.logFor running path ≠ .close i := LogCall.noConfusion
    rw [eq_false hclose, false_and, or_false]
    refine ⟨fun h => (isClosed_handOut h).resolve_right fun hi => ?_, fun h => isClosed_step h _⟩
    obtain rfl : running = true := by
      cases running with
      | true => rfl
      | false => exact absurd rfl (hrunning path)
    rcases handOut_cases x.store true path with ⟨k, -, heq⟩ | ⟨-, notices, heq⟩
    · rw [step, heq] at h
      exact absurd h.lt (Nat.not_lt.mpr hi)
    · rw [step, heq] at h
      obtain ⟨path', hlog⟩ := h
      rw [List.getElem?_append_right hi, List.getElem?_singleton] at hlog
      split at hlog
      · cases hlog
      · contradiction
  | record k e =>
    have hclose : LogCall.record k e ≠ .close i := LogCall.noConfusion
    rw [eq_false hclose, false_and, or_false]
    exact isClosed_record_iff x.store k e i
  | writeNext k =>
    have hclose : LogCall.writeNext k ≠ .close i := LogCall.noConfusion
    rw [eq_false hclose, false_and, or_false]
    exact isClosed_writeNext_iff x.store k x.files directory i
  | close k =>
    rw [LogCall.close.injEq, eq_comm (a := k)]
    refine (isClosed_close_iff x.store k x.files directory i).trans ?_
    exact or_congr_right (and_congr_right fun hik => hik ▸ Iff.rfl)
  | shutdown => contradiction

theorem record_closed (h : x.store.IsClosed i) (e : Event) :
    x.step directory (.record i e) = x ∧ (x.store.record i e).2 = [.logClosed e.kind] := by
  have hstore := record_of_isClosed h e
  obtain ⟨path, hlog⟩ := h
  refine ⟨?_, ?_⟩
  · rw [step, hstore]
  · simp only [EventStore.record, hlog, EventLog.record]

end Archive
end TierRouting
