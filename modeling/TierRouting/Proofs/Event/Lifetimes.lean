import TierRouting.Proofs.Event.Delivery
import TierRouting.Proofs.Event.Handing
import TierRouting.Proofs.Event.Lines

/-! The life of the logs that a program hands out: who gets the same one, when it is closed, and
where its events go. -/
namespace TierRouting.Archive

open EventStore LogCall

variable {directory : Place} {files : FileTree} {c : LogCall} {calls : List LogCall} {i : Nat}

/-- What holds of the logs of a program, however they are used. -/
structure SharedUntilShutdown (directory : Place) (files : FileTree) : Prop where
  /-- Two who ask get the same log just when they ask for the same path and the logs are not all
  closed between them. -/
  same_iff : ∀ before running path between running' path',
    (after directory files before).number running path =
        (after directory files (before ++ .logFor running path :: between)).number running' path' ↔
      Path.components path = Path.components path' ∧ .shutdown ∉ between
  length : ∀ calls, (after directory files calls).store.shared.length =
    ((sinceShutdown calls).filterMap asked?).dedup.length
  emptied : ∀ calls, (after directory files (calls ++ [.shutdown])).store.shared = []
  /-- A log that was handed out is closed with all the others. It takes nothing from then on. -/
  closed : ∀ before running path between later,
    let i := (after directory files before).number running path
    let calls := before ++ .logFor running path :: between
    let x := after directory files (calls ++ .shutdown :: later)
    x.store.IsClosed i ∧ x.store.isActive i = false ∧
      (∀ e, x.step directory (.record i e) = x ∧ (x.store.record i e).2 = [.logClosed e.kind]) ∧
      accepted directory { files := files } (calls ++ .shutdown :: later) i =
        accepted directory { files := files } calls i
  /-- Where files can be opened, they hold all that the closed logs took. -/
  delivered : ∀ calls, SinksOpen directory { files := files } calls →
    ∃ journal, Delivered directory files (accepted directory { files := files } calls) journal
      (after directory files calls)

theorem sharedUntilShutdown (directory : Place) (files : FileTree) :
    SharedUntilShutdown directory files where
  same_iff before running path between running' path' := by
    rw [after_append]
    exact number_eq_iff (tidy_after directory files before) running path between running' path'
  length := length_shared directory files
  emptied calls := by
    rw [after_concat, shared_shutdown]
  closed before running path between later := by
    intro i calls x
    have hclosed : ((after directory files calls).step directory .shutdown).store.IsClosed i :=
      (tidy_after directory files calls).isClosed_shutdown _ directory
        (number_lt directory files before running path between)
    have hx : x = run directory ((after directory files calls).step directory .shutdown) later :=
      after_append directory files calls (.shutdown :: later)
    have hclosedx : x.store.IsClosed i := by
      rw [hx]
      exact isClosed_run hclosed later
    refine ⟨hclosedx, hclosedx.isActive, record_closed hclosedx, ?_⟩
    have hlater : accepted directory ((run directory { files := files } calls).step directory
        .shutdown) later i = [] := accepted_of_isClosed hclosed later
    rw [accepted_append, accepted, hlater]
    exact List.append_nil _
  delivered calls hopen := delivered_after hopen

def eventAt (time : String) : Event := { EventLog.awkwardEvent with time }

/-- Two logs that write to one file by turns. One of them is closed early. -/
def twoLogs : List LogCall :=
  [.logFor true "a.jsonl", .logFor true "./a.jsonl", .record 0 (eventAt "12:00"),
    .record 0 (eventAt "12:01"), .record 1 (eventAt "12:02"), .writeNext 0, .writeNext 1, .close 0,
    .record 0 (eventAt "12:03"), .record 1 (eventAt "12:04"), .shutdown,
    .record 1 (eventAt "12:05"), .logFor false "a.jsonl"]

theorem sinksOpen_twoLogs : SinksOpen [] {} twoLogs := by
  refine ⟨trivial, trivial, trivial, trivial, trivial, ?_, ?_, ?_, trivial, trivial,
    ⟨?_, ?_, trivial⟩, trivial, trivial, trivial⟩
  · exact canWrite_of_writable "a.jsonl" ["a.jsonl".toList] rfl rfl
  · exact canWrite_of_writable "./a.jsonl" ["a.jsonl".toList] rfl rfl
  · exact canWrite_of_writable "a.jsonl" ["a.jsonl".toList] rfl rfl
  · exact canWrite_of_isClosed ⟨"a.jsonl", rfl⟩
  · exact canWrite_of_writable "./a.jsonl" ["a.jsonl".toList] rfl rfl

theorem sharedUntilShutdown_twoLogs : SinksOpen [] {} twoLogs ∧
    ∃ journal, Delivered [] {} (accepted [] {} twoLogs) journal (after [] {} twoLogs) ∧
      ofLog 0 journal = [eventAt "12:00", eventAt "12:01"] ∧
      ofLog 1 journal = [eventAt "12:02", eventAt "12:04"] ∧
      (after [] {} twoLogs).sink [] 0 = (after [] {} twoLogs).sink [] 1 := by
  obtain ⟨journal, h⟩ := (sharedUntilShutdown [] {}).delivered twoLogs sinksOpen_twoLogs
  exact ⟨sinksOpen_twoLogs, journal, h, h.complete 0 ⟨"a.jsonl", rfl⟩,
    h.complete 1 ⟨"./a.jsonl", rfl⟩, rfl⟩

/-- All who ask for a log do so while something runs that writes to it. -/
def AllRunning (calls : List LogCall) : Prop := ∀ path, .logFor false path ∉ calls

/-- The log was there, and it has been closed without the others. -/
def ClosedAlone (directory : Place) (files : FileTree) (calls : List LogCall) (i : Nat) : Prop :=
  ∃ before later, calls = before ++ .close i :: later ∧
    i < (after directory files before).store.logs.length

theorem closedAlone_concat_iff : ClosedAlone directory files (calls ++ [c]) i ↔
    ClosedAlone directory files calls i ∨
      c = .close i ∧ i < (after directory files calls).store.logs.length := by
  constructor
  · rintro ⟨before, later, heq, hi⟩
    rcases later.eq_nil_or_concat with rfl | ⟨later, last, rfl⟩
    · obtain ⟨rfl, hc⟩ := List.append_inj' heq rfl
      exact .inr ⟨List.singleton_inj.mp hc, hi⟩
    · rw [List.concat_eq_append, ← List.cons_append, ← List.append_assoc] at heq
      exact .inl ⟨before, later, (List.append_inj' heq rfl).1, hi⟩
  · rintro (⟨before, later, rfl, hi⟩ | ⟨rfl, hi⟩)
    · exact ⟨before, later ++ [c], by simp, hi⟩
    · exact ⟨calls, [], rfl, hi⟩

theorem ClosedAlone.lt (h : ClosedAlone directory files calls i) :
    i < (after directory files calls).store.logs.length := by
  obtain ⟨before, later, rfl, hi⟩ := h
  rw [after_append]
  exact Nat.lt_of_lt_of_le hi (length_le_run _)

/-- A shared log is closed if it was closed alone, and not otherwise. -/
theorem isClosed_iff_closedAlone (hrunning : AllRunning calls) {key : List Path.Component}
    (hshared : (key, i) ∈ (after directory files calls).store.shared) :
    (after directory files calls).store.IsClosed i ↔ ClosedAlone directory files calls i := by
  induction calls using List.reverseRecOn generalizing key with
  | nil => simp [after, run] at hshared
  | append_singleton calls c ih =>
    rw [after_concat] at hshared
    obtain ⟨hshutdown, hbefore⟩ := shared_of_step hshared
    have hc (path : String) : c ≠ .logFor false path := by
      rintro rfl
      exact hrunning path (by simp)
    rw [closedAlone_concat_iff, after_concat, isClosed_step_iff hshutdown hc]
    refine or_congr_left ?_
    rcases hbefore with hbefore | hnew
    · exact ih (fun path h => hrunning path (List.mem_append_left _ h)) hbefore
    -- Nobody can have closed a log that was not there.
    · exact iff_of_false (fun h => absurd h.lt (Nat.not_lt.mpr hnew))
        fun h => absurd h.lt (Nat.not_lt.mpr hnew)

/-- The log that is handed out is open, unless it was closed alone while it was shared. Then all
that it is given is lost. -/
theorem isActive_handed_out_iff (directory : Place) (files : FileTree)
    (hrunning : AllRunning calls) (path : String) :
    let x := after directory files calls
    let i := x.number true path
    let y := x.step directory (.logFor true path)
    (y.store.isActive i = true ↔ ¬ ClosedAlone directory files calls i) ∧
      (y.store.isActive i = false → ∀ e,
        y.step directory (.record i e) = y ∧ (y.store.record i e).2 = [.logClosed e.kind]) := by
  intro x i y
  have hshared : (Path.components path, i) ∈ y.store.shared := number_shared directory x true path
  have hy : after directory files (calls ++ [.logFor true path]) = y :=
    after_concat directory files calls (.logFor true path)
  have hlt : i < y.store.logs.length :=
    (tidy_step (tidy_after directory files calls) (.logFor true path)).lt hshared
  have hasked : AllRunning (calls ++ [.logFor true path]) := by
    intro path' hmem
    rcases List.mem_append.mp hmem with hmem | hmem
    · exact hrunning path' hmem
    · simp at hmem
  have hclosed : y.store.IsClosed i ↔ ClosedAlone directory files calls i := by
    rw [← hy] at hshared ⊢
    rw [isClosed_iff_closedAlone hasked hshared, closedAlone_concat_iff]
    exact or_iff_left fun h => LogCall.noConfusion h.1
  refine ⟨?_, fun hlost e => record_closed ((isActive_eq_false_iff hlt).mp hlost) e⟩
  rw [← hclosed, ← isActive_eq_false_iff hlt, Bool.not_eq_false]

/-- A log that was closed alone is handed out again. -/
theorem isActive_handed_out_iff_closed : AllRunning [.logFor true "a.jsonl", .close 0] ∧
    ((after [] {} [.logFor true "a.jsonl", .close 0]).step []
      (.logFor true "a.jsonl")).store.isActive 0 = false := by
  have hrunning : AllRunning [.logFor true "a.jsonl", .close 0] := by simp [AllRunning]
  have h := (isActive_handed_out_iff [] {} hrunning "a.jsonl").1
  refine ⟨hrunning, Bool.not_eq_true _ ▸ mt h.mp ?_⟩
  exact not_not_intro ⟨[.logFor true "a.jsonl"], [], rfl, by decide⟩

theorem not_forall_isActive_handed_out :
    ¬ ∀ (directory : Place) (files : FileTree) (calls : List LogCall) (path : String),
      AllRunning calls →
      ((after directory files calls).step directory (.logFor true path)).store.isActive
        ((after directory files calls).number true path) = true := by
  intro h
  have hlost := h [] {} [.logFor true "a.jsonl", .close 0] "a.jsonl" (by simp [AllRunning])
  exact absurd hlost (by decide)

end TierRouting.Archive
