import TierRouting.Config.KeyOffset

/-! Which place is found for a key: the first line to set it below the first header of its section,
if no other table starts in between. -/
namespace TierRouting.Text

variable {c : Char} {a b w cs rest line : List Char} {n : Nat}

@[simp] theorem byteLength_append (a b : List Char) :
    byteLength (a ++ b) = byteLength a + byteLength b := by
  induction a with
  | nil => simp [byteLength]
  | cons c a ih => simp [byteLength, ih, Nat.add_assoc]

theorem byteLength_pos (h : cs ≠ []) : 0 < byteLength cs := by
  obtain ⟨c, r, rfl⟩ := List.exists_cons_of_ne_nil h
  have hc := c.utf8Size_pos
  simp only [byteLength]
  omega

theorem ne_nil_of_mem_wholeLines (h : line ∈ wholeLines cs) : line ≠ [] := by
  induction cs generalizing line with
  | nil => exact absurd h List.not_mem_nil
  | cons c r ih =>
    rw [wholeLines] at h
    split at h
    · rcases List.mem_cons.mp h with rfl | h
      · exact List.cons_ne_nil _ _
      · exact ih h
    · split at h
      · next l ls hls =>
        rw [hls] at ih
        rcases List.mem_cons.mp h with rfl | h
        · exact List.cons_ne_nil _ _
        · exact ih (List.mem_cons_of_mem l h)
      · rw [List.mem_singleton.mp h]
        exact List.cons_ne_nil _ _

end TierRouting.Text

namespace TierRouting.Config

open Text

variable {w cs before rest key line : List Char} {ls : List (List Char)} {n o : Nat}
  {path : List String} {text : String}

/-- A text is cut at the first place where `w` occurs in it. -/
structure FirstAt (w cs before rest : List Char) : Prop where
  eq : cs = before ++ w ++ rest
  first : ∀ b a, cs = b ++ w ++ a → before.length ≤ b.length

theorem FirstAt.cons {c : Char} (hc : ¬ w <+: c :: cs) :
    FirstAt w (c :: cs) (c :: before) rest ↔ FirstAt w cs before rest := by
  constructor
  · rintro ⟨heq, hfirst⟩
    refine ⟨(List.cons.inj heq).2, fun b a hb => ?_⟩
    have hle := hfirst (c :: b) a (by rw [hb]; rfl)
    simpa using hle
  · rintro ⟨rfl, hfirst⟩
    refine ⟨rfl, fun b a hb => ?_⟩
    cases b with
    | nil => exact absurd ⟨a, hb.symm⟩ hc
    | cons d b =>
      have hle := hfirst b a (List.cons.inj hb).2
      simpa using hle

theorem dropThrough?_eq_some_iff (hw : w ≠ []) :
    dropThrough? w cs = some (n, rest) ↔
      ∃ before, FirstAt w cs before rest ∧ n = byteLength (before ++ w) := by
  induction cs generalizing n with
  | nil =>
    have hempty : w.isEmpty = false := by simpa using hw
    simp only [dropThrough?, hempty, Bool.false_eq_true, if_false, reduceCtorEq, false_iff]
    rintro ⟨before, ⟨heq, -⟩, -⟩
    simp [hw] at heq
  | cons c r ih =>
    rw [dropThrough?]
    by_cases hc : w <+: c :: r
    · rw [if_pos (List.isPrefixOf_iff_prefix.mpr hc)]
      constructor
      · intro h
        cases h
        refine ⟨[], ⟨?_, fun b a _ => Nat.zero_le _⟩, rfl⟩
        exact (List.prefix_iff_eq_append.mp hc).symm
      · rintro ⟨before, ⟨heq, hfirst⟩, rfl⟩
        obtain ⟨tail, htail⟩ := hc
        obtain rfl : before = [] := List.length_eq_zero_iff.mp
          (Nat.le_zero.mp (hfirst [] tail (by simp [htail])))
        rw [heq]
        simp
    · rw [if_neg fun h => hc (List.isPrefixOf_iff_prefix.mp h)]
      constructor
      · intro h
        obtain ⟨⟨m, tail⟩, hm, he⟩ := Option.map_eq_some_iff.mp h
        cases he
        obtain ⟨before, hfirst, rfl⟩ := ih.mp hm
        refine ⟨c :: before, (FirstAt.cons hc).mpr hfirst, ?_⟩
        simp only [List.cons_append, byteLength]
        omega
      · rintro ⟨before, hfirst, rfl⟩
        cases before with
        | nil => exact absurd ⟨rest, hfirst.eq.symm⟩ hc
        | cons d before =>
          obtain rfl : c = d := (List.cons.inj hfirst.eq).1
          refine Option.map_eq_some_iff.mpr ⟨(byteLength (before ++ w), rest),
            ih.mpr ⟨before, (FirstAt.cons hc).mp hfirst, rfl⟩, ?_⟩
          simp only [List.cons_append, byteLength, Prod.mk.injEq, and_true]
          omega

def Sets (key line : List Char) : Prop := setsKey key (trimStart line) = true

instance (key line : List Char) : Decidable (Sets key line) := inferInstanceAs (Decidable (_ = _))

/-- A line starts like a header. -/
def Opens (line : List Char) : Prop := (trimStart line).head? = some '['

instance (line : List Char) : Decidable (Opens line) := inferInstanceAs (Decidable (_ = _))

/-- What a line takes up before its first character that is not blank, in bytes. -/
def margin (line : List Char) : Nat := byteLength (line.takeWhile isBlank)

theorem margin_eq (line : List Char) :
    margin line = byteLength line - byteLength (trimStart line) := by
  have hsplit : byteLength line = margin line + byteLength (trimStart line) := by
    rw [margin, trimStart, ← byteLength_append, List.takeWhile_append_dropWhile]
  omega

/-- Some element of a list is its first one or comes later. -/
theorem exists_split_cons {α : Type} {x : α} {xs : List α} {P : List α → α → Prop} :
    (∃ passed y later, x :: xs = passed ++ y :: later ∧ P passed y) ↔
      P [] x ∨ ∃ passed y later, xs = passed ++ y :: later ∧ P (x :: passed) y := by
  constructor
  · rintro ⟨passed, y, later, heq, h⟩
    cases passed with
    | nil =>
      cases heq
      exact .inl h
    | cons z passed =>
      cases heq
      exact .inr ⟨passed, y, later, rfl, h⟩
  · rintro (h | ⟨passed, y, later, rfl, h⟩)
    · exact ⟨[], x, xs, rfl, h⟩
    · exact ⟨x :: passed, y, later, rfl, h⟩

theorem offsetIn_cons (key line : List Char) (n : Nat) (ls : List (List Char)) :
    offsetIn key n (line :: ls) =
      if Opens line ∧ 0 < n then none
      else if Sets key line then some (n + margin line)
      else offsetIn key (n + byteLength line) ls := by
  rw [margin_eq]
  rfl

/-- Behind the start, every line is asked first whether it opens a table. -/
theorem offsetIn_eq_some_iff (hn : 0 < n) :
    offsetIn key n ls = some o ↔ ∃ passed line later, ls = passed ++ line :: later ∧
      Sets key line ∧ (∀ l ∈ passed, ¬ Sets key l) ∧ (∀ l ∈ passed ++ [line], ¬ Opens l) ∧
        o = n + byteLength passed.flatten + margin line := by
  induction ls generalizing n with
  | nil => simp [offsetIn]
  | cons l ls ih =>
    have hnext : 0 < n + byteLength l := Nat.add_pos_left hn _
    rw [exists_split_cons, offsetIn_cons]
    by_cases hopens : Opens l
    · simp [hopens, hn]
    · by_cases hsets : Sets key l
      · simp [hsets, hopens, @eq_comm _ o, byteLength]
      · simp [hsets, hopens, ih hnext, Nat.add_assoc]

/-- A line sets a key, and of those passed on the way to it none does. None of them opens a table,
but for the one that the way starts with. -/
structure Reaches (key : List Char) (passed : List (List Char)) (line : List Char) : Prop where
  sets : Sets key line
  unset : ∀ l ∈ passed, ¬ Sets key l
  within : ∀ l ∈ (passed ++ [line]).tail, ¬ Opens l

theorem reaches_nil : Reaches key [] line ↔ Sets key line :=
  ⟨fun h => h.sets, fun h => ⟨h, by simp, by simp⟩⟩

theorem reaches_cons {l : List Char} {passed : List (List Char)} :
    Reaches key (l :: passed) line ↔ ¬ Sets key l ∧ Sets key line ∧
      (∀ l ∈ passed, ¬ Sets key l) ∧ ∀ l ∈ passed ++ [line], ¬ Opens l := by
  constructor
  · rintro ⟨hsets, hunset, hwithin⟩
    obtain ⟨hl, hpassed⟩ := List.forall_mem_cons.mp hunset
    exact ⟨hl, hsets, hpassed, hwithin⟩
  · rintro ⟨hl, hsets, hpassed, hwithin⟩
    exact ⟨hsets, List.forall_mem_cons.mpr ⟨hl, hpassed⟩, hwithin⟩

/-- The line that the search starts in may look like a header, as none is behind it. -/
theorem offsetIn_zero_eq_some_iff (hls : ∀ l ∈ ls, l ≠ []) :
    offsetIn key 0 ls = some o ↔ ∃ passed line later, ls = passed ++ line :: later ∧
      Reaches key passed line ∧ o = byteLength passed.flatten + margin line := by
  cases ls with
  | nil => simp [offsetIn]
  | cons l ls =>
    have hl : 0 < byteLength l := byteLength_pos (hls l List.mem_cons_self)
    -- The first line is not asked; once it has been passed, the offset is positive for good.
    rw [exists_split_cons, offsetIn_cons, if_neg fun h => Nat.lt_irrefl 0 h.2, reaches_nil]
    by_cases hsets : Sets key l
    · simp [hsets, reaches_cons, @eq_comm _ o, byteLength]
    · rw [if_neg hsets, Nat.zero_add, offsetIn_eq_some_iff hl]
      simp [hsets, reaches_cons, and_assoc]

/-- The header of a section. -/
def header (path : List String) : List Char :=
  '[' :: (String.intercalate "." path).toList ++ [']']

/-- Below the first header of a section, a key is set at an offset before any other table opens. -/
def SetBelow (text : List Char) (path : List String) (key : List Char) (o : Nat) : Prop :=
  ∃ before rest, FirstAt (header path) text before rest ∧
    ∃ passed line later, wholeLines rest = passed ++ line :: later ∧ Reaches key passed line ∧
      o = byteLength (before ++ header path) + (byteLength passed.flatten + margin line)

theorem keyOffset?_eq_some_iff {key : String} (hpath : path ≠ []) :
    keyOffset? text path key = some o ↔ SetBelow text.toList path key.toList o := by
  have hheader : header path ≠ [] := by simp [header]
  have hlines {rest : List Char} : ∀ l ∈ wholeLines rest, l ≠ [] :=
    fun l hl => ne_nil_of_mem_wholeLines hl
  have hempty : path.isEmpty = false := by simpa using hpath
  have hopen : keyOffset? text path key =
      (dropThrough? (header path) text.toList).bind fun found =>
        (offsetIn key.toList 0 (wholeLines found.2)).map (found.1 + ·) := by
    have hdrop : dropThrough? ('[' :: (String.intercalate "." path).toList ++ [']']) text.toList =
      dropThrough? (header path) text.toList := rfl
    rw [keyOffset?, hempty, hdrop]
    cases dropThrough? (header path) text.toList with
    | none => rfl
    | some found =>
      simp only [bind, Option.bind_some, Bool.false_eq_true, if_false]
      cases offsetIn key.toList 0 (wholeLines found.2) <;> rfl
  rw [hopen, Option.bind_eq_some_iff]
  constructor
  · rintro ⟨⟨start, rest⟩, hstart, hoffset⟩
    obtain ⟨m, hm, rfl⟩ := Option.map_eq_some_iff.mp hoffset
    obtain ⟨before, hfirst, rfl⟩ := (dropThrough?_eq_some_iff hheader).mp hstart
    obtain ⟨passed, line, later, hsplit, hreaches, rfl⟩ :=
      (offsetIn_zero_eq_some_iff hlines).mp hm
    exact ⟨before, rest, hfirst, passed, line, later, hsplit, hreaches, rfl⟩
  · rintro ⟨before, rest, hfirst, passed, line, later, hsplit, hreaches, rfl⟩
    refine ⟨_, (dropThrough?_eq_some_iff hheader).mpr ⟨before, hfirst, rfl⟩, ?_⟩
    refine Option.map_eq_some_iff.mpr ⟨_, (offsetIn_zero_eq_some_iff hlines).mpr
      ⟨passed, line, later, hsplit, hreaches, rfl⟩, rfl⟩

theorem SetBelow.header_infix (h : SetBelow cs path key o) : header path <:+: cs := by
  obtain ⟨before, rest, ⟨rfl, -⟩, -⟩ := h
  exact List.infix_append before (header path) rest

/-- The key itself stands at the offset. -/
theorem SetBelow.exists_append (h : SetBelow cs path key o) :
    ∃ before after, cs = before ++ key ++ after ∧ byteLength before = o := by
  obtain ⟨before, rest, ⟨rfl, -⟩, passed, line, later, hsplit, hreaches, rfl⟩ := h
  have hsets := hreaches.sets
  rw [Sets, setsKey, Bool.and_eq_true] at hsets
  obtain ⟨tail, htail⟩ := List.isPrefixOf_iff_prefix.mp hsets.1
  have hline : line.takeWhile isBlank ++ (key ++ tail) = line := by
    rw [htail, trimStart, List.takeWhile_append_dropWhile]
  have hrest : rest = passed.flatten ++ (line.takeWhile isBlank ++ (key ++ tail)) ++
      later.flatten := by
    rw [hline, ← flatten_wholeLines rest, hsplit]
    simp
  refine ⟨before ++ header path ++ passed.flatten ++ line.takeWhile isBlank,
    tail ++ later.flatten, ?_, ?_⟩
  · rw [hrest]
    simp only [List.append_assoc]
  · simp only [byteLength_append, margin]
    omega

end TierRouting.Config
