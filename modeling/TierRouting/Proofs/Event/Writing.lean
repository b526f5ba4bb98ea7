import TierRouting.Event.Log
import TierRouting.Proofs.Files.Adding

/-! A log that can be opened appends the lines of its events, in order, to what its file holds. -/
namespace TierRouting.EventLog

variable {files t u : FileTree} {directory p q : Place} {path : String} {sink : Option Place}
  {bytes : ByteArray}

/-- The components of the directories above a file, from the last one on. -/
def parents (path : String) : List Path.Component := (Path.components path).reverse.tail

/-- The file of a log is there, and the way to it. -/
structure Ready (t : FileTree) (directory : Place) (path : String) (p : Place) : Prop where
  locate : t.locate directory path = .ok p
  name : FileTree.endsInName path = true
  file : t.HasFile p
  above : parents path ≠ [] →
    t.namesDirectory directory (Path.ofComponents (parents path).reverse) = true

theorem openFile_cases (h : openFile files directory path = (t, .ok p)) :
    ∃ u, files.makeDirectories directory (parents path) = (u, .ok ()) ∧
      u.openAppend directory path = .ok (t, p) := by
  unfold openFile at h
  split at h
  · cases h
  · next u hmake =>
    refine ⟨u, hmake, ?_⟩
    split at h
    · next hopen =>
      cases h
      exact hopen
    · cases h

/-- Whatever is written to any file, the file of a log stays where it is. -/
theorem Ready.of_adds (h : Ready t directory path p) (hadds : FileTree.Adds t u q bytes) :
    Ready u directory path p where
  locate := FileTree.locate_of_leads hadds.leads h.locate
  name := h.name
  file := hadds.hasFile p h.file
  above hne := FileTree.namesDirectory_of_leads hadds.leads (h.above hne)

/-- Opening the file makes directories and perhaps an empty file. -/
theorem ready_openFile (h : openFile files directory path = (t, .ok p)) :
    Ready t directory path p ∧ FileTree.Adds files t p .empty := by
  obtain ⟨u, hmake, hopen⟩ := openFile_cases h
  obtain ⟨hlocate, hname, -⟩ := FileTree.openAppend_cases hopen
  obtain ⟨hadds, hfile⟩ := FileTree.adds_openAppend hopen
  have hgrown : FileTree.Grown files u := by
    simpa [hmake] using files.makeDirectories_grown directory (parents path)
  have habove : parents path ≠ [] →
      u.namesDirectory directory (Path.ofComponents (parents path).reverse) = true := by
    intro hne
    obtain ⟨c, cs, hcons⟩ := List.exists_cons_of_ne_nil hne
    rw [hcons] at hmake ⊢
    exact FileTree.namesDirectory_makeDirectories hmake
  refine ⟨⟨FileTree.locate_of_leads hadds.leads hlocate, hname, hfile,
    fun hne => FileTree.namesDirectory_of_leads hadds.leads (habove hne)⟩, ?_⟩
  have hboth := (FileTree.adds_of_grown hgrown p).trans hadds
  rwa [ByteArray.append_empty] at hboth

/-- A file that was opened is found again, and nothing has to be made. -/
theorem Ready.openFile (h : Ready t directory path p) :
    openFile t directory path = (t, .ok p) := by
  have hmake := FileTree.makeDirectories_of_namesDirectory h.above
  have hopen : t.openAppend directory path = .ok (t, p) := by
    simp [FileTree.openAppend, h.locate, h.name, h.file.get?, bind, Except.bind]
  rw [parents] at hmake
  simp only [EventLog.openFile, hmake, hopen]

/-- The text that events add to a file. -/
def textOf (events : List Event) : String := String.join (events.map Event.line)

theorem textOf_cons (e : Event) (events : List Event) :
    (textOf (e :: events)).toUTF8 = e.line.toUTF8 ++ (textOf events).toUTF8 := by
  rw [textOf, List.map_cons, String.join_cons]
  exact String.toByteArray_append

theorem textOf_append (events later : List Event) :
    (textOf (events ++ later)).toUTF8 = (textOf events).toUTF8 ++ (textOf later).toUTF8 := by
  induction events with
  | nil => exact ByteArray.empty_append.symm
  | cons e events ih =>
    rw [List.cons_append, textOf_cons, textOf_cons, ih, ByteArray.append_assoc]

theorem toUTF8_line (e : Event) : e.line.toUTF8 = (textOf [e]).toUTF8 := by
  rw [textOf_cons]
  exact ByteArray.append_empty.symm

/-- The file at a path can be opened, at that place. -/
def Writable (files : FileTree) (directory : Place) (path : String) (p : Place) : Prop :=
  (openFile files directory path).2 = .ok p

theorem Ready.writable (h : Ready t directory path p) : Writable t directory path p := by
  rw [Writable, h.openFile]

/-- What the writer of a log writes next gets to a place: its file is open there, or it can be
opened. -/
inductive Reaches (files : FileTree) (directory : Place) (path : String) (p : Place) :
    Option Place → Prop
  | opened (h : Ready files directory path p) : Reaches files directory path p (some p)
  | unopened (h : Writable files directory path p) : Reaches files directory path p none

theorem Reaches.writable (h : Reaches files directory path p sink) :
    Writable files directory path p := by
  cases h with
  | opened h => exact h.writable
  | unopened h => exact h

/-- An event is appended, and the file is open from then on. -/
theorem Reaches.writeEvent (h : Reaches files directory path p sink) (e : Event) :
    ∃ u, writeEvent files directory path sink e = (u, some p, []) ∧ Ready u directory path p ∧
      FileTree.Adds files u p (textOf [e]).toUTF8 := by
  rw [← toUTF8_line]
  cases h with
  | opened h =>
    have hadds := FileTree.adds_append h.file e.line.toUTF8
    exact ⟨_, rfl, h.of_adds hadds, hadds⟩
  | unopened h =>
    obtain ⟨t, result, hopen⟩ : ∃ t result, openFile files directory path = (t, result) :=
      ⟨_, _, rfl⟩
    obtain rfl : result = .ok p := by simpa [Writable, hopen] using h
    obtain ⟨hready, hopened⟩ := ready_openFile hopen
    have hadds := FileTree.adds_append hready.file e.line.toUTF8
    have hboth := hopened.trans hadds
    rw [ByteArray.empty_append] at hboth
    exact ⟨_, by simp only [EventLog.writeEvent, hopen], hready.of_adds hadds, hboth⟩

/-- The first event opens the file; none of them fails. -/
theorem Reaches.write (h : Reaches files directory path p sink) (events : List Event) :
    ∃ u, write files directory path sink events = (u, []) ∧ Writable u directory path p ∧
      FileTree.Adds files u p (textOf events).toUTF8 := by
  induction events generalizing files sink with
  | nil => exact ⟨files, rfl, h.writable, FileTree.adds_refl files p⟩
  | cons e events ih =>
    obtain ⟨t, hevent, hready, hadds⟩ := h.writeEvent e
    obtain ⟨u, hwrite, hu, hlater⟩ := ih (.opened hready)
    refine ⟨u, ?_, hu, ?_⟩
    · simp only [EventLog.write, hevent, hwrite, List.append_nil]
    · rw [textOf_cons, toUTF8_line]
      exact hadds.trans hlater

end TierRouting.EventLog
