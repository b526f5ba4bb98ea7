import TierRouting.Proofs.Prompt.BlankPairs

/-! What becomes of each line when blank runs are shrunk, and the turns of a loop that does it in
going through the lines once. -/
namespace TierRouting.Prompt

open Text

variable {inRun : Bool} {l : Line} {ls before run after : List Line} {i k : Nat}
  {text : List Char}

/-- The lines `run` are all blank, and the lines next to them are not. -/
structure IsBlankRun (before run after : List Line) : Prop where
  ne_nil : run ≠ []
  blank : ∀ l ∈ run, allBlank l = true
  above : ∀ l ∈ before.getLast?, allBlank l = false
  below : ∀ l ∈ after.head?, allBlank l = false

/-- What stays of a run of blank lines. -/
def shrunk (run : List Line) : Line := if 2 ≤ run.length then [] else run.headD []

/-- How many blank lines stand in a row from line `i` on. -/
def runLength (ls : List Line) (i : Nat) : Nat := ((ls.drop i).takeWhile allBlank).length

/-- How many lines a turn passes: a whole run of blank lines, or one line with text. -/
def stride (ls : List Line) (i : Nat) : Nat := max 1 (runLength ls i)

/-- What a turn writes. -/
def written (ls : List Line) (i : Nat) : Line := if 2 ≤ runLength ls i then [] else ls.getD i []

/-- The lines where a turn starts, in a loop that starts at line `i`. -/
def turnsFrom (ls : List Line) (i : Nat) : List Nat :=
  if i < ls.length then i :: turnsFrom ls (i + stride ls i) else []
termination_by ls.length - i
decreasing_by
  have : 1 ≤ stride ls i := Nat.le_max_left ..
  omega

/-- A line with text parts what is above it from what is below it. -/
theorem collapseFrom_append_cons (inRun : Bool) (before after : List Line)
    (hl : allBlank l = false) : collapseFrom inRun (before ++ l :: after) =
      collapseFrom inRun before ++ l :: collapseFrom false after := by
  induction before generalizing inRun with
  | nil => exact collapseFrom_cons_of_not_blank hl
  | cons k before ih =>
    cases hk : allBlank k with
    | false =>
      rw [List.cons_append, collapseFrom_cons_of_not_blank hk, collapseFrom_cons_of_not_blank hk,
        ih, List.cons_append]
    | true =>
      have hhead : (before ++ l :: after).head?.any allBlank = before.head?.any allBlank := by
        cases before with
        | nil => simpa using hl
        | cons _ _ => rfl
      rw [List.cons_append, collapseFrom, collapseFrom, ih, hhead]
      cases inRun with
      | true => simp [hk]
      | false => cases hb : before.head?.any allBlank <;> simp [hk]

theorem collapseFrom_append_of_below (inRun : Bool) (before : List Line)
    (h : ∀ l ∈ after.head?, allBlank l = false) :
    collapseFrom inRun (before ++ after) =
      collapseFrom inRun before ++ collapseFrom false after := by
  cases after with
  | nil => simp [collapseFrom]
  | cons l after =>
    have hl : allBlank l = false := h l rfl
    rw [collapseFrom_append_cons inRun before after hl, collapseFrom_cons_of_not_blank hl]

theorem collapseFrom_append_of_above (after : List Line)
    (h : ∀ l ∈ before.getLast?, allBlank l = false) :
    collapseFrom false (before ++ after) =
      collapseFrom false before ++ collapseFrom false after := by
  rcases List.eq_nil_or_concat before with rfl | ⟨first, l, rfl⟩
  · rfl
  · have hl : allBlank l = false := h l (by simp)
    rw [List.concat_eq_append, List.append_assoc, List.singleton_append,
      collapseFrom_append_cons false first after hl,
      collapseFrom_append_cons false first [] hl]
    simp [collapseFrom]

theorem collapseFrom_true_of_blank (h : ∀ l ∈ run, allBlank l = true) :
    collapseFrom true run = [] := by
  induction run with
  | nil => rfl
  | cons l run ih =>
    have hl : allBlank l = true := h l List.mem_cons_self
    rw [collapseFrom, if_pos hl, if_pos rfl]
    exact ih fun k hk => h k (List.mem_cons_of_mem l hk)

theorem collapseFrom_of_blank (hne : run ≠ []) (h : ∀ l ∈ run, allBlank l = true) :
    collapseFrom false run = [shrunk run] := by
  cases run with
  | nil => exact absurd rfl hne
  | cons l run =>
    have hl : allBlank l = true := h l List.mem_cons_self
    have hrest := collapseFrom_true_of_blank fun k hk => h k (List.mem_cons_of_mem l hk)
    rw [collapseFrom, if_pos hl, hrest]
    cases run with
    | nil => rfl
    | cons k run =>
      have hk : allBlank k = true := h k (by simp)
      simp [shrunk, hk]

/-- One line stands for the run, and what is around it goes on as if it stood alone. -/
theorem collapseFrom_run (h : IsBlankRun before run after) :
    collapseFrom false (before ++ run ++ after) =
      collapseFrom false before ++ shrunk run :: collapseFrom false after := by
  rw [List.append_assoc, collapseFrom_append_of_above _ h.above,
    collapseFrom_append_of_below false run h.below, collapseFrom_of_blank h.ne_nil h.blank]
  rfl

theorem runLength_le (ls : List Line) (i : Nat) : runLength ls i ≤ ls.length - i := by
  rw [runLength, ← List.length_drop]
  exact (List.takeWhile_sublist _).length_le

/-- Each line is passed in one turn, and then the loop ends. -/
theorem flatMap_range'_turnsFrom (ls : List Line) (i : Nat) :
    (turnsFrom ls i).flatMap (fun k => List.range' k (stride ls k)) =
      List.range' i (ls.length - i) := by
  fun_induction turnsFrom ls i with
  | case1 i hi ih =>
    have hle := runLength_le ls i
    have hsplit : ls.length - i = stride ls i + (ls.length - (i + stride ls i)) := by
      rw [stride]
      omega
    rw [List.flatMap_cons, ih, hsplit, List.range'_append_1]
  | case2 i hi =>
    have hnone : ls.length - i = 0 := by omega
    rw [hnone]
    rfl

theorem getD_of_drop (h : ls.drop i = l :: after) : ls.getD i [] = l := by
  have hl : ls[i]? = some l := by
    rw [← Nat.add_zero i, ← List.getElem?_drop, h]
    rfl
  rw [List.getD_eq_getElem?_getD, hl, Option.getD_some]

/-- The blank lines from line `i` on, and what comes below them. -/
theorem exists_run (ls : List Line) (i : Nat) :
    ∃ run rest, ls.drop i = run ++ rest ∧ run.length = runLength ls i ∧
      (∀ l ∈ run, allBlank l = true) ∧ ∀ l ∈ rest.head?, allBlank l = false := by
  refine ⟨(ls.drop i).takeWhile allBlank, (ls.drop i).dropWhile allBlank,
    List.takeWhile_append_dropWhile.symm, rfl, List.all_eq_true.mp List.all_takeWhile, ?_⟩
  intro l hl
  have hnot := List.head?_dropWhile_not allBlank (ls.drop i)
  rw [Option.mem_def.mp hl] at hnot
  exact Bool.eq_false_iff.mpr (by simpa using hnot)

/-- The loop writes the same lines. -/
theorem collapseFrom_drop (ls : List Line) (i : Nat) :
    collapseFrom false (ls.drop i) = (turnsFrom ls i).map (written ls) := by
  fun_induction turnsFrom ls i with
  | case1 i hi ih =>
    obtain ⟨run, rest, hsplit, hlength, hblank, hbelow⟩ := exists_run ls i
    have hrest : ls.drop (i + run.length) = rest := by
      rw [← List.drop_drop, hsplit, List.drop_left]
    rw [List.map_cons, ← ih, stride, written, ← hlength]
    cases run with
    | nil =>
      have hne : ls.drop i ≠ [] := by
        rw [Ne, List.drop_eq_nil_iff]
        omega
      rw [List.nil_append] at hsplit
      rw [hsplit] at hne
      obtain ⟨l, after, rfl⟩ := List.exists_cons_of_ne_nil hne
      have hafter : ls.drop (i + 1) = after := by
        rw [← List.drop_drop, hsplit, List.drop_succ_cons, List.drop_zero]
      rw [hsplit, collapseFrom_cons_of_not_blank (hbelow l rfl), getD_of_drop hsplit]
      simp [hafter]
    | cons l r =>
      have hmax : max 1 (l :: r).length = (l :: r).length := by
        rw [List.length_cons]
        omega
      rw [hmax, hrest, hsplit, collapseFrom_append_of_below false _ hbelow,
        collapseFrom_of_blank (List.cons_ne_nil l r) hblank, getD_of_drop hsplit]
      rfl
  | case2 i hi =>
    rw [List.drop_eq_nil_of_le (by omega)]
    rfl

/-- Blank runs are shrunk and nothing else is changed. A line with text stays as it is in its place;
a run of blank lines becomes one line, which is the line itself if it stands alone. The same lines
come from a loop over line numbers that passes each line in one of its turns. What has been shrunk
stays, and so does a text without two blank lines in a row, and no other text. -/
theorem blank_runs_replaced (text : List Char) :
    textLines (lines (collapseBlank text)) = textLines (lines text) ∧
      (∀ before l after, lines text = before ++ l :: after → allBlank l = false →
        lines (collapseBlank text) =
          collapseFrom false before ++ l :: collapseFrom false after) ∧
      (∀ before run after, lines text = before ++ run ++ after → IsBlankRun before run after →
        lines (collapseBlank text) =
          collapseFrom false before ++ shrunk run :: collapseFrom false after) ∧
      lines (collapseBlank text) = (turnsFrom (lines text) 0).map (written (lines text)) ∧
      (turnsFrom (lines text) 0).flatMap (fun i => List.range' i (stride (lines text) i)) =
        List.range (lines text).length ∧
      collapseBlank (collapseBlank text) = collapseBlank text ∧
      (collapseBlank text = text ↔ NoBlankPair (lines text)) := by
  refine ⟨?_, ?_, ?_, ?_, ?_, ?_, collapseBlank_eq_self_iff⟩
  · rw [lines_collapseBlank, textLines_collapseFrom]
  · intro before l after he hl
    rw [lines_collapseBlank, he, collapseFrom_append_cons false before after hl]
  · intro before run after he hrun
    rw [lines_collapseBlank, he, collapseFrom_run hrun]
  · rw [lines_collapseBlank, ← collapseFrom_drop, List.drop_zero]
  · rw [flatMap_range'_turnsFrom, Nat.sub_zero, List.range_eq_range']
  · exact collapseBlank_eq_self_iff.mpr (noBlankPair_lines_collapseBlank text)

/-- A run of two lines with blanks in them, and a line of blanks that stands alone. -/
def spacedOutText : List Char := "a\n \n\t\nb\n \nc".toList

theorem blank_runs_replaced_spacedOut :
    lines spacedOutText = ["a".toList] ++ [" ".toList, "\t".toList] ++
        ["b".toList, " ".toList, "c".toList] ∧
      IsBlankRun ["a".toList] [" ".toList, "\t".toList] ["b".toList, " ".toList, "c".toList] ∧
      lines (collapseBlank spacedOutText) =
        ["a".toList, [], "b".toList, " ".toList, "c".toList] ∧
      lines (collapseBlank spacedOutText) =
        collapseFrom false ["a".toList, " ".toList, "\t".toList] ++ "b".toList ::
          collapseFrom false [" ".toList, "c".toList] := by
  have hlines : lines spacedOutText = ["a".toList] ++ [" ".toList, "\t".toList] ++
      ["b".toList, " ".toList, "c".toList] := by decide
  have hrun : IsBlankRun ["a".toList] [" ".toList, "\t".toList]
      ["b".toList, " ".toList, "c".toList] := by
    constructor
    · decide
    · decide
    · decide
    · decide
  obtain ⟨-, htext, hblank, -⟩ := blank_runs_replaced spacedOutText
  exact ⟨hlines, hrun, (hblank _ _ _ hlines hrun).trans (by decide),
    htext _ _ _ hlines (by decide)⟩

end TierRouting.Prompt
