import TierRouting.Proofs.Event.Archive
import TierRouting.Proofs.Event.Lines

/-! What is in the files after any calls on a program's logs and any turns of their writers: a line
for each event that a closed log took, those of one log in the order in which it took them. -/
namespace TierRouting

namespace EventLog

variable {l : EventLog} {files t u : FileTree} {directory p : Place} {bytes : ByteArray}
  {written accepted : List Event}

/-- What a log has taken is written or waits, in this order. If its file is open, it is there. -/
inductive Keeps (files : FileTree) (directory : Place) (written accepted : List Event) :
    EventLog → Prop
  | closed (path : String) (hall : written = accepted) :
      Keeps files directory written accepted ⟨path, .closed⟩
  | accepting (path : String) (queue : List Event) (sink : Option Place)
      (hall : written ++ queue = accepted) (hready : ∀ p ∈ sink, Ready files directory path p) :
      Keeps files directory written accepted ⟨path, .accepting queue sink⟩

theorem Keeps.written_isPrefix (h : Keeps files directory written accepted l) :
    written <+: accepted := by
  cases h with
  | closed path hall => exact hall ▸ List.prefix_refl written
  | accepting path queue sink hall _ => exact ⟨queue, hall⟩

/-- Whatever is written to any file, a log that does not write keeps what it has. -/
theorem Keeps.of_adds (h : Keeps t directory written accepted l)
    (hadds : FileTree.Adds t u p bytes) : Keeps u directory written accepted l := by
  cases h with
  | closed path hall => exact .closed path hall
  | accepting path queue sink hall hready =>
    exact .accepting path queue sink hall fun q hq => (hready q hq).of_adds hadds

theorem Keeps.record (h : Keeps files directory written accepted l) (e : Event) :
    Keeps files directory written (accepted ++ if l.isActive then [e] else [])
      (l.record e).1 := by
  cases h with
  | closed path hall => exact .closed path (hall.trans (List.append_nil _).symm)
  | accepting path queue sink hall hready =>
    refine .accepting path (queue ++ [e]) sink ?_ hready
    rw [← List.append_assoc, hall]
    rfl

/-- A closing begins like a turn of the writer. -/
theorem close_writeNext (l : EventLog) (files : FileTree) (directory : Place) :
    ((l.writeNext files directory).1.close (l.writeNext files directory).2.1 directory).1 =
        (l.close files directory).1 ∧
      ((l.writeNext files directory).1.close (l.writeNext files directory).2.1 directory).2.1 =
        (l.close files directory).2.1 := by
  obtain ⟨path, state⟩ := l
  cases state with
  | accepting queue sink =>
    cases queue with
    | nil => exact ⟨rfl, rfl⟩
    | cons e queue => exact ⟨rfl, rfl⟩
  | abandoned => exact ⟨rfl, rfl⟩
  | closed => exact ⟨rfl, rfl⟩

end EventLog

namespace Archive

open EventStore

variable {x y : Archive} {directory : Place} {initial : FileTree} {c : LogCall}
  {calls : List LogCall} {i k : Nat} {l : EventLog} {f : Nat → List Event} {e : Event}
  {queue : List Event} {journal : List (Nat × Event)}

/-- What a log takes of a call. -/
def taken (x : Archive) (c : LogCall) (i : Nat) : List Event :=
  match c with
  | .record k e => if k = i ∧ x.store.isActive i = true then [e] else []
  | _ => []

/-- The events that a log takes while calls are made. -/
def accepted (directory : Place) : Archive → List LogCall → Nat → List Event
  | _, [], _ => []
  | x, c :: calls, i => x.taken c i ++ accepted directory (x.step directory c) calls i

/-- Where the events of a log are written. -/
def sink (directory : Place) (x : Archive) (i : Nat) : Option Place :=
  (x.store.path? i).bind fun path => (x.files.locate directory path).toOption

theorem sink_eq_some_iff {p : Place} : x.sink directory i = some p ↔
    ∃ path, x.store.path? i = some path ∧ x.files.locate directory path = .ok p := by
  rw [sink, Option.bind_eq_some_iff]
  have hok (r : Except FileError Place) : r.toOption = some p ↔ r = .ok p := by
    cases r <;> simp [Except.toOption]
  simp only [hok]

/-- A journal names written events with their logs, in the order of writing. These are the events
of one log in it. -/
def ofLog (i : Nat) (journal : List (Nat × Event)) : List Event :=
  (journal.filter (·.1 == i)).map (·.2)

theorem ofLog_concat (i k : Nat) (e : Event) (journal : List (Nat × Event)) :
    ofLog i (journal ++ [(k, e)]) = ofLog i journal ++ if k = i then [e] else [] := by
  by_cases hk : k = i
  · simp [ofLog, hk]
  · simp [ofLog, hk]

/-- The events in a journal that were written to one place. -/
def writtenAt (directory : Place) (x : Archive) (p : Place) (journal : List (Nat × Event)) :
    List Event :=
  (journal.filter (x.sink directory ·.1 == some p)).map (·.2)

theorem writtenAt_concat (p : Place) (k : Nat) (e : Event) (journal : List (Nat × Event)) :
    x.writtenAt directory p (journal ++ [(k, e)]) =
      x.writtenAt directory p journal ++ if x.sink directory k = some p then [e] else [] := by
  by_cases hk : x.sink directory k = some p
  · simp [writtenAt, hk]
  · simp [writtenAt, hk]

theorem writtenAt_congr (h : ∀ m ∈ journal, y.sink directory m.1 = x.sink directory m.1)
    (p : Place) : y.writtenAt directory p journal = x.writtenAt directory p journal := by
  rw [writtenAt, writtenAt, List.filter_congr fun m hm => by rw [h m hm]]

/-- The files hold what they held at first, and then a line for each event of the journal. It has
all that the closed logs took, and what each open one took first. Of logs that write to one file,
any may come before any other, event by event. -/
structure Delivered (directory : Place) (initial : FileTree) (f : Nat → List Event)
    (journal : List (Nat × Event)) (x : Archive) : Prop where
  ordered : ∀ i, ofLog i journal <+: f i
  complete : ∀ i, x.store.IsClosed i → ofLog i journal = f i
  placed : ∀ m ∈ journal, ∃ p, x.sink directory m.1 = some p
  content : ∀ p, x.files.contentAt p = initial.contentAt p ++
    (EventLog.textOf (x.writtenAt directory p journal)).toUTF8
  /-- Each line holds its event. -/
  lines : ∀ p, ∃ lines : List (List Char),
    Text.splitAt '\n' (EventLog.textOf (x.writtenAt directory p journal)).toList =
      lines ++ [[]] ∧
    List.Forall₂ EventLog.Holds (x.writtenAt directory p journal) lines

/-- The account of what the logs took: all of it is in the journal or waits in them. -/
structure Accounts (directory : Place) (initial : FileTree) (f : Nat → List Event)
    (journal : List (Nat × Event)) (x : Archive) : Prop where
  keeps : ∀ i (l : EventLog), x.store.logs[i]? = some l →
    l.Keeps x.files directory (ofLog i journal) (f i)
  fresh : ∀ i, x.store.logs.length ≤ i → f i = [] ∧ ofLog i journal = []
  placed : ∀ m ∈ journal, ∃ p, x.sink directory m.1 = some p
  content : ∀ p, x.files.contentAt p = initial.contentAt p ++
    (EventLog.textOf (x.writtenAt directory p journal)).toUTF8

theorem Accounts.delivered (h : Accounts directory initial f journal x) :
    Delivered directory initial f journal x where
  ordered i := by
    cases hlog : x.store.logs[i]? with
    | none =>
      rw [(h.fresh i (List.getElem?_eq_none_iff.mp hlog)).2]
      exact List.nil_prefix
    | some l => exact (h.keeps i l hlog).written_isPrefix
  complete i := by
    rintro ⟨path, hlog⟩
    cases h.keeps i _ hlog with
    | closed _ hall => exact hall
  placed := h.placed
  content := h.content
  lines _ := ⟨_, EventLog.splitAt_textOf _, EventLog.forall₂_holds _⟩

/-- The file of a log can be opened if there are events to write and it is not open yet. -/
def CanWrite (directory : Place) (x : Archive) (i : Nat) : Prop :=
  ∀ path e queue, x.store.logs[i]? = some ⟨path, .accepting (e :: queue) none⟩ →
    ∃ p, EventLog.Writable x.files directory path p

def CanCloseAll (directory : Place) : Archive → List Nat → Prop
  | _, [] => True
  | x, i :: r => x.CanWrite directory i ∧ CanCloseAll directory (x.step directory (.close i)) r

def CanMake (directory : Place) (x : Archive) : LogCall → Prop
  | .writeNext i => x.CanWrite directory i
  | .close i => x.CanWrite directory i
  | .shutdown => CanCloseAll directory { x with store := { x.store with shared := [] } }
      (x.store.shared.map (·.2))
  | _ => True

/-- Every file can be opened at the time when it is written to. -/
def SinksOpen (directory : Place) : Archive → List LogCall → Prop
  | _, [] => True
  | x, c :: calls => x.CanMake directory c ∧ SinksOpen directory (x.step directory c) calls

theorem canWrite_of_writable (path : String) (p : Place) (hpath : x.store.path? i = some path)
    (h : EventLog.Writable x.files directory path p) : x.CanWrite directory i := by
  intro path' e queue hlog
  have hsame : path' = path := by simpa [path?, hlog] using hpath
  exact ⟨p, hsame ▸ h⟩

theorem canWrite_of_isClosed (h : x.store.IsClosed i) : x.CanWrite directory i := by
  obtain ⟨path, hclosed⟩ := h
  intro path' e queue hlog
  rw [hclosed, Option.some.injEq] at hlog
  cases hlog

theorem accepted_of_isClosed (h : x.store.IsClosed i) (calls : List LogCall) :
    accepted directory x calls i = [] := by
  induction calls generalizing x with
  | nil => rfl
  | cons c calls ih =>
    have htaken : x.taken c i = [] := by
      unfold taken
      split
      · simp [h.isActive]
      · rfl
    rw [accepted, htaken, ih (isClosed_step h c)]
    rfl

theorem accepted_append (calls later : List LogCall) : accepted directory x (calls ++ later) i =
    accepted directory x calls i ++ accepted directory (run directory x calls) later i := by
  induction calls generalizing x with
  | nil => rfl
  | cons c calls ih => rw [List.cons_append, accepted, accepted, ih, List.append_assoc, run_cons]

/-- A log that has written is there. -/
theorem Accounts.lt (h : Accounts directory initial f journal x) {m : Nat × Event}
    (hm : m ∈ journal) : m.1 < x.store.logs.length := by
  obtain ⟨p, hp⟩ := h.placed m hm
  obtain ⟨path, hpath, -⟩ := sink_eq_some_iff.mp hp
  exact path?_isSome_iff.mp (hpath ▸ rfl)

/-- Where logs write stays the same while no file changes. -/
theorem Accounts.of_files (h : Accounts directory initial f journal x)
    (hpath : ∀ i < x.store.logs.length, y.store.path? i = x.store.path? i)
    (hfiles : y.files = x.files) :
    (∀ m ∈ journal, ∃ p, y.sink directory m.1 = some p) ∧
      ∀ p, y.files.contentAt p = initial.contentAt p ++
        (EventLog.textOf (y.writtenAt directory p journal)).toUTF8 := by
  have hsink (m : Nat × Event) (hm : m ∈ journal) :
      y.sink directory m.1 = x.sink directory m.1 := by
    rw [sink, hpath m.1 (h.lt hm), hfiles, sink]
  refine ⟨fun m hm => ?_, fun p => ?_⟩
  · rw [hsink m hm]
    exact h.placed m hm
  · rw [hfiles, writtenAt_congr hsink, h.content p]

theorem Accounts.handOut (h : Accounts directory initial f journal x) (running : Bool)
    (path : String) :
    Accounts directory initial f journal (x.step directory (.logFor running path)) := by
  obtain ⟨hplaced, hcontent⟩ :=
    h.of_files (y := x.step directory (.logFor running path)) (fun _ => path?_handOut) rfl
  refine ⟨fun i l hl => ?_, fun i hi => ?_, hplaced, hcontent⟩
  · rcases handOut_cases x.store running path with ⟨k, -, heq⟩ | ⟨-, notices, heq⟩
    · rw [step, heq] at hl
      exact h.keeps i l hl
    · rw [step, heq] at hl
      rcases Nat.lt_or_ge i x.store.logs.length with hi | hi
      · rw [List.getElem?_append_left hi] at hl
        exact h.keeps i l hl
      -- The new log has taken nothing and written nothing.
      · obtain ⟨hf, hjournal⟩ := h.fresh i hi
        rw [hf, hjournal]
        rw [List.getElem?_append_right hi, List.getElem?_singleton] at hl
        split at hl
        · cases hl
          cases running with
          | true => exact .accepting path [] none rfl (by simp)
          | false => exact .closed path rfl
        · contradiction
  · exact h.fresh i (Nat.le_trans (length_le_step _) hi)

theorem Accounts.record (h : Accounts directory initial f journal x) (k : Nat) (e : Event) :
    Accounts directory initial (fun i => f i ++ x.taken (.record k e) i) journal
      (x.step directory (.record k e)) := by
  have hfollows := follows_record x.store k e
  obtain ⟨hplaced, hcontent⟩ :=
    h.of_files (y := x.step directory (.record k e)) (fun i _ => hfollows.path? i) rfl
  refine ⟨fun i l hl => ?_, fun i hi => ?_, hplaced, hcontent⟩
  · have hlogs : (x.step directory (.record k e)).store.logs =
        x.store.logs.modify k fun l => (l.record e).1 :=
      congrArg EventStore.logs (record_fst x.store k e)
    rw [hlogs, List.getElem?_modify] at hl
    have hfiles : (x.step directory (.record k e)).files = x.files := rfl
    obtain ⟨l', hl', rfl⟩ := Option.map_eq_some_iff.mp hl
    rw [hfiles]
    by_cases hk : k = i
    · subst hk
      simpa [taken, isActive_eq hl'] using (h.keeps k l' hl').record e
    · simpa [taken, hk] using h.keeps i l' hl'
  · have hi : x.store.logs.length ≤ i := hfollows.length ▸ hi
    simpa [taken, isActive_of_length_le hi] using h.fresh i hi

theorem path?_eq_of_set {s t : EventStore} {state state' : LogState} {path : String}
    (hlog : s.logs[k]? = some ⟨path, state⟩) (hlogs : t.logs = s.logs.set k ⟨path, state'⟩)
    (i : Nat) : t.path? i = s.path? i := by
  rw [EventStore.path?, hlogs, List.getElem?_set]
  split
  · next hk =>
    subst hk
    rw [if_pos (List.getElem?_eq_some_iff.mp hlog).1, EventStore.path?, hlog]
    rfl
  · rfl

/-- The event that has waited longest is added to the file of its log. -/
theorem Accounts.append {path : String} {opened : Option Place} {p : Place}
    (h : Accounts directory initial f journal x)
    (hlog : x.store.logs[k]? = some ⟨path, .accepting (e :: queue) opened⟩)
    (hlogs : y.store.logs = x.store.logs.set k ⟨path, .accepting queue (some p)⟩)
    (hready : EventLog.Ready y.files directory path p)
    (hadds : FileTree.Adds x.files y.files p (EventLog.textOf [e]).toUTF8) :
    Accounts directory initial f (journal ++ [(k, e)]) y := by
  have hpath := path?_eq_of_set hlog hlogs
  have hsame (m : Nat × Event) (hm : m ∈ journal) :
      y.sink directory m.1 = x.sink directory m.1 := by
    obtain ⟨q, hq⟩ := h.placed m hm
    obtain ⟨path', hfound, hlocate⟩ := sink_eq_some_iff.mp hq
    rw [hq, sink_eq_some_iff]
    exact ⟨path', (hpath m.1).trans hfound, FileTree.locate_of_leads hadds.leads hlocate⟩
  have hown : y.sink directory k = some p := by
    refine sink_eq_some_iff.mpr ⟨path, (hpath k).trans ?_, hready.locate⟩
    rw [EventStore.path?, hlog, Option.map_some]
  refine ⟨fun i l hl => ?_, fun i hi => ?_, fun m hm => ?_, fun q => ?_⟩
  · rw [hlogs, List.getElem?_set] at hl
    rw [ofLog_concat]
    split at hl
    · next hk =>
      subst hk
      rw [if_pos (List.getElem?_eq_some_iff.mp hlog).1] at hl
      cases hl
      cases h.keeps k _ hlog with
      | accepting _ _ _ hall _ =>
        refine .accepting path queue (some p) ?_ fun q hq => Option.some.inj hq ▸ hready
        simpa using hall
    · next hk =>
      rw [if_neg hk, List.append_nil]
      exact (h.keeps i l hl).of_adds hadds
  · have hlt : k < x.store.logs.length := (List.getElem?_eq_some_iff.mp hlog).1
    rw [hlogs, List.length_set] at hi
    rw [ofLog_concat, if_neg (by omega), List.append_nil]
    exact h.fresh i hi
  · rcases List.mem_append.mp hm with hm | hm
    · rw [hsame m hm]
      exact h.placed m hm
    · obtain rfl := List.mem_singleton.mp hm
      exact ⟨p, hown⟩
  · rw [hadds.content, h.content, writtenAt_concat, writtenAt_congr hsame,
      EventLog.textOf_append, ByteArray.append_assoc, hown]
    by_cases hq : q = p
    · simp [hq]
    · simp [hq, Ne.symm hq, EventLog.textOf]

/-- A turn of a writer that has nothing to do. -/
theorem step_writeNext_of_quiet (h : ∀ l, x.store.logs[k]? = some l →
    l.writeNext x.files directory = (l, x.files, [])) :
    x.step directory (.writeNext k) = x := by
  cases hlog : x.store.logs[k]? with
  | none => simp only [step, EventStore.writeNext, work, hlog]
  | some l => simp only [step, EventStore.writeNext, work, hlog, h l hlog, set_of_getElem? hlog]

/-- A writer for which an event waits writes it, and the journal tells so. -/
theorem Accounts.writeNext_waiting {path : String} {opened : Option Place}
    (h : Accounts directory initial f journal x)
    (hlog : x.store.logs[k]? = some ⟨path, .accepting (e :: queue) opened⟩)
    (hopen : x.CanWrite directory k) :
    Accounts directory initial f (journal ++ [(k, e)]) (x.step directory (.writeNext k)) ∧
      ∃ p, (x.step directory (.writeNext k)).store.logs[k]? =
        some ⟨path, .accepting queue (some p)⟩ := by
  have hreaches : ∃ p, EventLog.Reaches x.files directory path p opened := by
    cases opened with
    | some p =>
      cases h.keeps k _ hlog with
      | accepting _ _ _ _ hready => exact ⟨p, .opened (hready p rfl)⟩
    | none =>
      obtain ⟨p, hwritable⟩ := hopen path e queue hlog
      exact ⟨p, .unopened hwritable⟩
  obtain ⟨p, hreaches⟩ := hreaches
  obtain ⟨u, hwrite, hready, hadds⟩ := hreaches.writeEvent e
  simp only [step, EventStore.writeNext, work, hlog, EventLog.writeNext, hwrite]
  exact ⟨h.append hlog rfl hready hadds, p,
    List.getElem?_set_self (List.getElem?_eq_some_iff.mp hlog).1⟩

/-- A turn of a writer leaves the account right. -/
theorem Accounts.writeNext (h : Accounts directory initial f journal x)
    (hopen : x.CanWrite directory k) :
    ∃ journal', Accounts directory initial f journal' (x.step directory (.writeNext k)) := by
  have quiet (hquiet : ∀ l, x.store.logs[k]? = some l →
      l.writeNext x.files directory = (l, x.files, [])) :
      ∃ journal', Accounts directory initial f journal' (x.step directory (.writeNext k)) :=
    ⟨journal, by rwa [step_writeNext_of_quiet hquiet]⟩
  cases hlog : x.store.logs[k]? with
  | none => exact quiet (by simp [hlog])
  | some l =>
    cases h.keeps k l hlog with
    | closed path hall => exact quiet (by simp [hlog, EventLog.writeNext])
    | accepting path queue opened hall hready =>
      cases queue with
      | nil => exact quiet (by simp [hlog, EventLog.writeNext])
      | cons e queue => exact ⟨_, (h.writeNext_waiting hlog hopen).1⟩

theorem step_close_writeNext (x : Archive) (k : Nat) :
    (x.step directory (.writeNext k)).step directory (.close k) = x.step directory (.close k) := by
  cases hlog : x.store.logs[k]? with
  | none => simp only [step, EventStore.writeNext, EventStore.close, work, hlog]
  | some l =>
    obtain ⟨hclosed, hfiles⟩ := l.close_writeNext x.files directory
    have hlt : k < x.store.logs.length := (List.getElem?_eq_some_iff.mp hlog).1
    simp only [step, EventStore.writeNext, EventStore.close, work, hlog,
      List.getElem?_set_self hlt, List.set_set, hclosed, hfiles]

/-- A log that has nothing left to write is closed. -/
theorem Accounts.close_quiet (h : Accounts directory initial f journal x)
    (hquiet : ∀ path e queue opened, x.store.logs[k]? ≠ some ⟨path, .accepting (e :: queue) opened⟩) :
    Accounts directory initial f journal (x.step directory (.close k)) := by
  have hfollows := follows_close x.store k x.files directory
  have hlogs : (x.step directory (.close k)).store.logs =
      x.store.logs.modify k fun l => ⟨l.path, .closed⟩ :=
    congrArg EventStore.logs (close_fst x.store k x.files directory)
  have hfiles : (x.step directory (.close k)).files = x.files := by
    simp only [step, EventStore.close, work]
    cases hlog : x.store.logs[k]? with
    | none => rfl
    | some l =>
      cases h.keeps k l hlog with
      | closed path hall => rfl
      | accepting path queue opened hall hready =>
        cases queue with
        | nil => rfl
        | cons e queue => exact absurd hlog (hquiet path e queue opened)
  obtain ⟨hplaced, hcontent⟩ := h.of_files (fun i _ => hfollows.path? i) hfiles
  refine ⟨fun i l hl => ?_, fun i hi => h.fresh i (hfollows.length ▸ hi), hplaced, hcontent⟩
  rw [hlogs, List.getElem?_modify] at hl
  obtain ⟨l', hl', rfl⟩ := Option.map_eq_some_iff.mp hl
  rw [hfiles]
  by_cases hk : k = i
  · subst hk
    rw [if_pos rfl]
    cases h.keeps k l' hl' with
    | closed path hall => exact .closed path hall
    | accepting path queue opened hall hready =>
      cases queue with
      | nil => exact .closed path ((List.append_nil _).symm.trans hall)
      | cons e queue => exact absurd hl' (hquiet path e queue opened)
  · rw [if_neg hk]
    exact h.keeps i l' hl'

/-- Closing a log writes what waits in it, as that many turns of its writer do. -/
theorem Accounts.close_accepting {path : String} {opened : Option Place}
    (h : Accounts directory initial f journal x)
    (hlog : x.store.logs[k]? = some ⟨path, .accepting queue opened⟩)
    (hopen : x.CanWrite directory k) :
    ∃ journal', Accounts directory initial f journal' (x.step directory (.close k)) := by
  induction queue generalizing x journal opened with
  | nil => exact ⟨journal, h.close_quiet fun _ _ _ _ hwaits => by simp [hlog] at hwaits⟩
  | cons e queue ih =>
    obtain ⟨hnext, p, hlog'⟩ := h.writeNext_waiting hlog hopen
    rw [← step_close_writeNext]
    -- Its file is open now, so nothing more has to be opened.
    exact ih hnext hlog' fun _ _ _ hclosed => by simp [hlog'] at hclosed

theorem Accounts.close (h : Accounts directory initial f journal x)
    (hopen : x.CanWrite directory k) :
    ∃ journal', Accounts directory initial f journal' (x.step directory (.close k)) := by
  cases hlog : x.store.logs[k]? with
  | none => exact ⟨journal, h.close_quiet fun _ _ _ _ hwaits => by simp [hlog] at hwaits⟩
  | some l =>
    cases h.keeps k l hlog with
    | closed path hall =>
      exact ⟨journal, h.close_quiet fun _ _ _ _ hwaits => by simp [hlog] at hwaits⟩
    | accepting path queue opened hall hready => exact h.close_accepting hlog hopen

theorem Accounts.closes {numbers : List Nat} (h : Accounts directory initial f journal x)
    (hopen : CanCloseAll directory x numbers) :
    ∃ journal', Accounts directory initial f journal'
      (run directory x (numbers.map .close)) := by
  induction numbers generalizing x journal with
  | nil => exact ⟨journal, h⟩
  | cons i numbers ih =>
    obtain ⟨journal', hclose⟩ := h.close hopen.1
    exact ih hclose hopen.2

theorem run_closes (x : Archive) (numbers : List Nat) : run directory x (numbers.map .close) =
    ⟨(x.store.closeAll x.files directory numbers).1,
      (x.store.closeAll x.files directory numbers).2.1⟩ := by
  induction numbers generalizing x with
  | nil => rfl
  | cons i numbers ih =>
    rw [List.map_cons, run_cons, ih]
    rfl

theorem append_taken (hc : ∀ k e, c ≠ .record k e) : (fun i => f i ++ x.taken c i) = f := by
  funext i
  cases c with
  | record k e => exact absurd rfl (hc k e)
  | logFor running path => exact List.append_nil _
  | writeNext k => exact List.append_nil _
  | close k => exact List.append_nil _
  | shutdown => exact List.append_nil _

/-- One call or turn keeps the account, and each log has what it takes of the call besides. -/
theorem Accounts.step (h : Accounts directory initial f journal x)
    (hopen : x.CanMake directory c) :
    ∃ journal', Accounts directory initial (fun i => f i ++ x.taken c i) journal'
      (x.step directory c) := by
  cases c with
  | logFor running path =>
    rw [append_taken fun _ _ => LogCall.noConfusion]
    exact ⟨journal, h.handOut running path⟩
  | record k e => exact ⟨journal, h.record k e⟩
  | writeNext k =>
    rw [append_taken fun _ _ => LogCall.noConfusion]
    exact h.writeNext hopen
  | close k =>
    rw [append_taken fun _ _ => LogCall.noConfusion]
    exact h.close hopen
  | shutdown =>
    rw [append_taken fun _ _ => LogCall.noConfusion]
    have hunshared : Accounts directory initial f journal
        { x with store := { x.store with shared := [] } } :=
      ⟨h.keeps, h.fresh, h.placed, h.content⟩
    have hcloses := hunshared.closes hopen
    rw [run_closes] at hcloses
    exact hcloses

/-- All calls and turns together, from the account that was there before. -/
theorem Accounts.run (h : Accounts directory initial f journal x)
    (hopen : SinksOpen directory x calls) :
    ∃ journal', Accounts directory initial (fun i => f i ++ accepted directory x calls i) journal'
      (run directory x calls) := by
  induction calls generalizing x f journal with
  | nil =>
    have hf : (fun i => f i ++ accepted directory x [] i) = f := by simp [accepted]
    rw [hf]
    exact ⟨journal, h⟩
  | cons c calls ih =>
    obtain ⟨journal', hstep⟩ := h.step hopen.1
    have hrest := ih hstep hopen.2
    simp only [List.append_assoc] at hrest
    exact hrest

theorem accounts_new (directory : Place) (files : FileTree) :
    Accounts directory files (fun _ => []) [] { files := files } where
  keeps i l hl := by simp at hl
  fresh _ _ := ⟨rfl, rfl⟩
  placed := by simp
  content _ := ByteArray.append_empty.symm

theorem delivered_after {files : FileTree}
    (hopen : SinksOpen directory { files := files } calls) :
    ∃ journal, Delivered directory files (accepted directory { files := files } calls) journal
      (after directory files calls) := by
  obtain ⟨journal, hrun⟩ := (accounts_new directory files).run hopen
  exact ⟨journal, hrun.delivered⟩

end Archive
end TierRouting
