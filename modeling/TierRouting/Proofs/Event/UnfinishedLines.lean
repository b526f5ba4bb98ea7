import TierRouting.Proofs.Event.Lines

/-! What a log leaves of a file whose last line has no end: its first event goes on with that line,
and every later one has a line to itself. -/
namespace TierRouting

namespace Text

variable {c : Char} {cs : List Char}

/-- The bytes of a text in UTF-8. -/
def bytes (cs : List Char) : List UInt8 := cs.flatMap String.utf8EncodeChar

theorem bytes_append (cs ds : List Char) : bytes (cs ++ ds) = bytes cs ++ bytes ds :=
  List.flatMap_append

theorem toList_toUTF8 (s : String) : s.toUTF8.data.toList = bytes s.toList := by
  rw [String.toUTF8, ← String.utf8Encode_toList, List.utf8Encode, List.data_toByteArray, bytes]

/-- A character that is not ASCII has no ASCII byte. -/
theorem le_of_mem_utf8EncodeChar (hc : 127 < c.val.toNat) :
    ∀ b ∈ String.utf8EncodeChar c, 128 ≤ b.toNat := by
  have high {n : Nat} (hlow : 128 ≤ n) (hhigh : n < 256) : 128 ≤ (UInt8.ofNat n).toNat := by
    rw [UInt8.toNat_ofNat', Nat.mod_eq_of_lt hhigh]
    exact hlow
  have later {n : Nat} : 128 ≤ (UInt8.ofNat (n % 64 + 128)).toNat := high (by omega) (by omega)
  rw [String.utf8EncodeChar, if_neg (by omega)]
  split
  · simp only [List.forall_mem_cons]
    exact ⟨high (by omega) (by omega), later, List.forall_mem_nil _⟩
  · split
    · simp only [List.forall_mem_cons]
      exact ⟨high (by omega) (by omega), later, later, List.forall_mem_nil _⟩
    · simp only [List.forall_mem_cons]
      exact ⟨high (by omega) (by omega), later, later, later, List.forall_mem_nil _⟩

theorem newline_not_mem_bytes (h : '\n' ∉ cs) : 10 ∉ bytes cs := by
  rw [bytes, List.mem_flatMap]
  rintro ⟨c, hc, hb⟩
  by_cases hascii : c.val.toNat ≤ 127
  · rw [String.utf8EncodeChar, if_pos hascii, List.mem_singleton] at hb
    have hval : c.val.toNat = 10 := by
      have hb := congrArg UInt8.toNat hb
      rw [UInt8.toNat_ofNat', Nat.mod_eq_of_lt (by omega)] at hb
      exact hb.symm
    obtain rfl : c = '\n' := Char.ext (UInt32.toNat_inj.mp hval)
    exact h hc
  · exact absurd (le_of_mem_utf8EncodeChar (by omega) 10 hb) (by decide)

end Text

namespace EventLog

variable {files : FileTree} {directory p : Place} {path : String} {e : Event}
  {events earlier later : List Event} {cs above line below : List UInt8}

def bytesAt (files : FileTree) (p : Place) : List UInt8 := (files.contentAt p).data.toList

def jsonBytes (e : Event) : List UInt8 := Text.bytes e.json.chars

/-- The bytes of the lines of events. -/
def lineBytes (events : List Event) : List UInt8 := events.flatMap fun e => jsonBytes e ++ [10]

theorem newline_not_mem_jsonBytes (e : Event) : 10 ∉ jsonBytes e :=
  Text.newline_not_mem_bytes (Json.newline_not_mem_chars e.legible_json)

theorem jsonBytes_ne_nil (e : Event) : jsonBytes e ≠ [] :=
  List.append_ne_nil_of_left_ne_nil String.utf8EncodeChar_ne_nil _

theorem toList_toUTF8_textOf (events : List Event) :
    (textOf events).toUTF8.data.toList = lineBytes events := by
  rw [Text.toList_toUTF8]
  induction events with
  | nil => rfl
  | cons e events ih =>
    rw [toList_textOf_cons, List.append_cons, Text.bytes_append, Text.bytes_append, ih]
    rfl

theorem lineBytes_split (earlier : List Event) (e : Event) (later : List Event) :
    lineBytes (earlier ++ e :: later) =
      lineBytes earlier ++ jsonBytes e ++ 10 :: lineBytes later := by
  simp [lineBytes]

/-- The last line, if there is one, has its end. -/
def IsFinished (cs : List UInt8) : Prop := ∀ b ∈ cs.getLast?, b = 10

theorem isFinished_append_lineBytes (h : earlier ≠ []) : IsFinished (cs ++ lineBytes earlier) := by
  obtain ⟨front, e, rfl⟩ := (List.eq_nil_or_concat earlier).resolve_left h
  simp [IsFinished, lineBytes]

/-- A part of a file begins a line and ends it. -/
structure StandsAlone (above line below : List UInt8) : Prop where
  starts : IsFinished above
  whole : 10 ∉ line
  ends : ∀ b ∈ below.head?, b = 10

/-- The place of an event in its file begins a line unless it is the first one. -/
theorem standsAlone_iff :
    StandsAlone (cs ++ lineBytes earlier) (jsonBytes e) (10 :: lineBytes later) ↔
      earlier ≠ [] ∨ IsFinished cs := by
  have hends : IsFinished (cs ++ lineBytes earlier) ↔ earlier ≠ [] ∨ IsFinished cs := by
    by_cases hearlier : earlier = []
    · subst hearlier
      simp [lineBytes]
    · exact iff_of_true (isFinished_append_lineBytes hearlier) (.inl hearlier)
  constructor
  · exact fun h => hends.mp h.starts
  · exact fun h => ⟨hends.mpr h, newline_not_mem_jsonBytes e, by simp⟩

def recordAll (l : EventLog) (events : List Event) : EventLog :=
  events.foldl (fun l e => (l.record e).1) l

theorem recordAll_accepting (queue events : List Event) :
    recordAll ⟨path, .accepting queue none⟩ events =
      ⟨path, .accepting (queue ++ events) none⟩ := by
  induction events generalizing queue with
  | nil => simp [recordAll]
  | cons e events ih =>
    have hrecord : (record ⟨path, .accepting queue none⟩ e).1 =
        ⟨path, .accepting (queue ++ [e]) none⟩ := rfl
    rw [recordAll, List.foldl_cons, hrecord, ← recordAll, ih, List.append_assoc,
      List.singleton_append]

theorem exists_close_recordAll (h : Writable files directory path p) (events : List Event) :
    ∃ u, close (recordAll ⟨path, .accepting [] none⟩ events) files directory =
        (⟨path, .closed⟩, u, []) ∧
      bytesAt u p = bytesAt files p ++ lineBytes events := by
  obtain ⟨u, hwrite, -, hadds⟩ := (Reaches.unopened h).write events
  refine ⟨u, ?_, ?_⟩
  · rw [recordAll_accepting, List.nil_append, close]
    simp only [hwrite]
  · rw [bytesAt, hadds.content_self, ByteArray.data_append, Array.toList_append, toList_toUTF8_textOf,
      bytesAt]

/-- A new log adds a line for each event that it takes. The line of an event is its own, except
that the first one goes on with a line that the file ends in the middle of. -/
theorem close_recordAll (h : Writable files directory path p) (events : List Event) :
    ∃ u, close (recordAll ⟨path, .accepting [] none⟩ events) files directory =
        (⟨path, .closed⟩, u, []) ∧
      bytesAt u p = bytesAt files p ++ lineBytes events ∧
      ∀ earlier e later, events = earlier ++ e :: later →
        bytesAt u p = (bytesAt files p ++ lineBytes earlier) ++
          (jsonBytes e ++ 10 :: lineBytes later) ∧
        (StandsAlone (bytesAt files p ++ lineBytes earlier) (jsonBytes e)
            (10 :: lineBytes later) ↔
          earlier ≠ [] ∨ IsFinished (bytesAt files p)) := by
  obtain ⟨u, hclose, hbytes⟩ := exists_close_recordAll h events
  refine ⟨u, hclose, hbytes, ?_⟩
  rintro earlier e later rfl
  refine ⟨?_, standsAlone_iff⟩
  rw [hbytes, lineBytes_split]
  simp only [List.append_assoc]

/-- A file whose last line has no end. -/
def unfinished : FileTree := ⟨[(["events.jsonl".toList], .file "\x7b\"ts\":".toUTF8)]⟩

theorem writable_unfinished : Writable unfinished [] "events.jsonl" ["events.jsonl".toList] := rfl

theorem bytesAt_unfinished :
    bytesAt unfinished ["events.jsonl".toList] = Text.bytes "\x7b\"ts\":".toList :=
  Text.toList_toUTF8 _

/-- Of two events the first one is in one line with what was there before. -/
theorem close_recordAll_unfinished :
    Writable unfinished [] "events.jsonl" ["events.jsonl".toList] ∧
    ∃ u, close (recordAll ⟨"events.jsonl", .accepting [] none⟩ [awkwardEvent, awkwardEvent])
        unfinished [] = (⟨"events.jsonl", .closed⟩, u, []) ∧
      bytesAt u ["events.jsonl".toList] = Text.bytes "\x7b\"ts\":".toList ++
        (jsonBytes awkwardEvent ++ 10 :: (jsonBytes awkwardEvent ++ [10])) := by
  obtain ⟨u, hclose, hbytes, -⟩ :=
    close_recordAll writable_unfinished [awkwardEvent, awkwardEvent]
  refine ⟨writable_unfinished, u, hclose, ?_⟩
  rw [hbytes, bytesAt_unfinished]
  simp [lineBytes]

/-- After a line without its end, the one event of a log is nowhere on a line of its own. -/
theorem not_standsAlone (hne : cs ≠ []) (hcs : 10 ∉ cs)
    (heq : cs ++ lineBytes [e] = above ++ (jsonBytes e ++ below)) :
    ¬ StandsAlone above (jsonBytes e) below := by
  intro h
  -- The only line end is the last byte, so nothing that begins a line comes before the event.
  have hwhole : 10 ∉ cs ++ jsonBytes e := by simp [hcs, newline_not_mem_jsonBytes]
  have hlast : cs ++ lineBytes [e] = (cs ++ jsonBytes e) ++ 10 :: [] := by simp [lineBytes]
  rw [hlast] at heq
  rcases above.eq_nil_or_concat with rfl | ⟨front, b, rfl⟩
  · cases below with
    | nil =>
      rw [List.nil_append, List.append_nil] at heq
      exact newline_not_mem_jsonBytes e (heq ▸ by simp)
    | cons b below =>
      obtain rfl : b = 10 := h.ends b rfl
      obtain ⟨hsame, -, -⟩ := (List.append_cons_inj_of_notMem hwhole List.not_mem_nil).mp heq
      exact hne (List.append_left_eq_self.mp hsame)
  · obtain rfl : b = 10 := h.starts b (by simp)
    rw [List.concat_append] at heq
    obtain ⟨-, -, hrest⟩ := (List.append_cons_inj_of_notMem hwhole List.not_mem_nil).mp heq
    exact jsonBytes_ne_nil e (List.append_eq_nil_iff.mp hrest.symm).1

theorem not_forall_standsAlone :
    ¬ ∀ (files : FileTree) (directory p : Place) (path : String) (events : List Event),
      Writable files directory path p →
      ∃ u notices, close (recordAll ⟨path, .accepting [] none⟩ events) files directory =
          (⟨path, .closed⟩, u, notices) ∧
        bytesAt files p <+: bytesAt u p ∧
        ∀ e ∈ events, ∃ above below,
          bytesAt u p = above ++ (jsonBytes e ++ below) ∧
          StandsAlone above (jsonBytes e) below := by
  intro h
  obtain ⟨u, notices, hclose, -, hlines⟩ := h _ _ _ _ [awkwardEvent] writable_unfinished
  obtain ⟨v, hclose', hbytes⟩ := exists_close_recordAll writable_unfinished [awkwardEvent]
  obtain ⟨above, below, heq, halone⟩ := hlines awkwardEvent List.mem_cons_self
  obtain rfl : v = u := congrArg (·.2.1) (hclose'.symm.trans hclose)
  rw [hbytes, bytesAt_unfinished] at heq
  refine not_standsAlone ?_ (Text.newline_not_mem_bytes (by decide)) heq halone
  exact List.append_ne_nil_of_left_ne_nil String.utf8EncodeChar_ne_nil _

end EventLog
end TierRouting
