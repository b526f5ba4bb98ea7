import TierRouting.Prompt.Adapt
import TierRouting.Proofs.Prompt.Headers

/-! What the shrinking of blank runs keeps: the lines with text, and the titles. -/
namespace TierRouting.Prompt

open Text

variable {inRun : Bool} {state : Option Fence} {l : Line} {ls : List Line} {text : List Char}

theorem collapseFrom_cons_of_not_blank (h : allBlank l = false) :
    collapseFrom inRun (l :: ls) = l :: collapseFrom false ls := by
  simp [collapseFrom, h]

/-- A blank line is dropped, emptied or kept as it is. -/
theorem collapseFrom_cons_of_blank (inRun : Bool) (ls : List Line) (h : allBlank l = true) :
    collapseFrom inRun (l :: ls) = collapseFrom true ls ∨
      ∃ k, (k = [] ∨ k = l) ∧ collapseFrom inRun (l :: ls) = k :: collapseFrom true ls := by
  cases inRun with
  | true => exact Or.inl (by simp [collapseFrom, h])
  | false =>
    refine Or.inr ?_
    by_cases hr : ls.head?.any allBlank = true
    · exact ⟨[], Or.inl rfl, by simp [collapseFrom, h, hr]⟩
    · exact ⟨l, Or.inr rfl, by simp [collapseFrom, h, hr]⟩

theorem collapseFrom_ne_nil (h : ls ≠ []) : collapseFrom false ls ≠ [] := by
  obtain ⟨l, r, rfl⟩ := List.exists_cons_of_ne_nil h
  cases hl : allBlank l with
  | false => simp [collapseFrom_cons_of_not_blank hl]
  | true =>
    by_cases hr : r.head?.any allBlank = true <;> simp [collapseFrom, hl, hr]

theorem mem_collapseFrom (h : l ∈ collapseFrom inRun ls) : l = [] ∨ l ∈ ls := by
  induction ls generalizing inRun with
  | nil => simp [collapseFrom] at h
  | cons k r ih =>
    cases hk : allBlank k with
    | false =>
      rw [collapseFrom_cons_of_not_blank hk] at h
      rcases List.mem_cons.mp h with rfl | h
      · exact Or.inr List.mem_cons_self
      · exact (ih h).imp_right (List.mem_cons_of_mem k)
    | true =>
      rcases collapseFrom_cons_of_blank inRun r hk with e | ⟨j, hj, e⟩
      · rw [e] at h
        exact (ih h).imp_right (List.mem_cons_of_mem k)
      · rw [e] at h
        rcases List.mem_cons.mp h with rfl | h
        · rcases hj with rfl | rfl
          · exact Or.inl rfl
          · exact Or.inr List.mem_cons_self
        · exact (ih h).imp_right (List.mem_cons_of_mem k)

theorem textLines_collapseFrom (inRun : Bool) (ls : List Line) :
    textLines (collapseFrom inRun ls) = textLines ls := by
  induction ls generalizing inRun with
  | nil => rfl
  | cons l r ih =>
    cases hl : allBlank l with
    | false =>
      rw [collapseFrom_cons_of_not_blank hl, textLines_cons_of_not_blank hl,
        textLines_cons_of_not_blank hl, ih]
    | true =>
      rcases collapseFrom_cons_of_blank inRun r hl with e | ⟨k, hk, e⟩
      · rw [e, ih, textLines_cons_of_blank hl]
      · have hkb : allBlank k = true := by rcases hk with rfl | rfl <;> simp [hl]
        rw [e, textLines_cons_of_blank hkb, textLines_cons_of_blank hl, ih]

theorem mem_collapseFrom_iff (h : allBlank l = false) : l ∈ collapseFrom inRun ls ↔ l ∈ ls := by
  have hf : l ∈ textLines (collapseFrom inRun ls) ↔ l ∈ textLines ls := by
    rw [textLines_collapseFrom]
  simpa [textLines, List.mem_filter, h] using hf

theorem titlesFrom_collapseFrom (state : Option Fence) (inRun : Bool) (ls : List Line) :
    titlesFrom state (collapseFrom inRun ls) = titlesFrom state ls := by
  rw [← titlesFrom_textLines, textLines_collapseFrom, titlesFrom_textLines]

theorem newline_not_mem_collapseFrom (h : ∀ l ∈ ls, '\n' ∉ l) :
    ∀ l ∈ collapseFrom inRun ls, '\n' ∉ l := by
  intro l hl
  rcases mem_collapseFrom hl with rfl | hl
  · simp
  · exact h l hl

theorem lines_collapseBlank (text : List Char) :
    lines (collapseBlank text) = collapseFrom false (lines text) :=
  lines_unlines (collapseFrom_ne_nil (lines_ne_nil text))
    (newline_not_mem_collapseFrom fun _ => newline_not_mem)

theorem titles_collapseBlank (text : List Char) : titles (collapseBlank text) = titles text := by
  rw [titles, lines_collapseBlank, titlesFrom_collapseFrom, titles]

/-- Phrases with text lie on lines that stay. -/
theorem infix_unlines_collapseFrom_iff {w : List Char} (hw : allBlank w = false) (hn : '\n' ∉ w) :
    w <:+: unlines (collapseFrom inRun ls) ↔ w <:+: unlines ls := by
  have hne : w ≠ [] := by
    rintro rfl
    simp at hw
  have hline : ∀ l, w <:+: l → allBlank l = false := by
    rintro l ⟨x, y, rfl⟩
    simp [hw]
  rw [infix_unlines_iff hne hn, infix_unlines_iff hne hn]
  constructor
  · rintro ⟨l, hl, h⟩
    exact ⟨l, (mem_collapseFrom_iff (hline l h)).mp hl, h⟩
  · rintro ⟨l, hl, h⟩
    exact ⟨l, (mem_collapseFrom_iff (hline l h)).mpr hl, h⟩

theorem infix_collapseBlank_iff {w : List Char} (hw : allBlank w = false) (hn : '\n' ∉ w) :
    w <:+: collapseBlank text ↔ w <:+: text := by
  rw [collapseBlank, infix_unlines_collapseFrom_iff hw hn, unlines_lines]

end TierRouting.Prompt
