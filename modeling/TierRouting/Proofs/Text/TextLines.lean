import Mathlib.Data.List.ModifyLast
import TierRouting.Proofs.Text.Splitting
import TierRouting.Proofs.Text.Trimming

/-! The lines of a text that are not blank. -/
namespace TierRouting.Text

variable {c : Char} {a : List Char} {ls : List (List Char)}

def textLines (ls : List (List Char)) : List (List Char) := ls.filter (!allBlank ·)

/-- The lines, the last of them without the blanks at its end. -/
def trimLast (ls : List (List Char)) : List (List Char) := ls.modifyLast trimEnd

@[simp] theorem trimLast_nil : trimLast [] = [] := rfl

theorem trimLast_concat (ls : List (List Char)) (l : List Char) :
    trimLast (ls ++ [l]) = ls ++ [trimEnd l] := List.modifyLast_concat trimEnd l ls

@[simp] theorem textLines_append (ls ks : List (List Char)) :
    textLines (ls ++ ks) = textLines ls ++ textLines ks := List.filter_append ..

theorem textLines_cons_of_blank (h : allBlank a = true) : textLines (a :: ls) = textLines ls := by
  simp [textLines, h]

theorem textLines_cons_of_not_blank (h : allBlank a = false) :
    textLines (a :: ls) = a :: textLines ls := by
  simp [textLines, h]

@[simp] theorem textLines_nil : textLines [] = [] := rfl

theorem textLines_unlines (h : ∀ l ∈ ls, '\n' ∉ l) :
    textLines (lines (unlines ls)) = textLines ls := by
  by_cases hls : ls = []
  · subst hls
    rfl
  · rw [lines_unlines hls h]

/-- A blank at the end is seen in the last line at most. -/
theorem trimLast_textLines_concat (hc : isBlank c = true) (cs : List Char) :
    trimLast (textLines (lines (cs ++ [c]))) = trimLast (textLines (lines cs)) := by
  by_cases hn : c = '\n'
  · subst hn
    have hl : lines (cs ++ ['\n']) = lines cs ++ [[]] := splitAt_append_sep
    rw [hl, textLines_append, textLines_cons_of_blank allBlank_nil, textLines_nil,
      List.append_nil]
  · obtain ⟨ks, k, hk, hkc⟩ := splitAt_concat_of_ne cs hn
    rw [lines, lines, hk, hkc, textLines_append, textLines_append]
    cases hb : allBlank k with
    | true =>
      have hbc : allBlank (k ++ [c]) = true := by simp [hb, hc]
      rw [textLines_cons_of_blank hb, textLines_cons_of_blank hbc]
    | false =>
      have hbc : allBlank (k ++ [c]) = false := by simp [hb]
      rw [textLines_cons_of_not_blank hb, textLines_cons_of_not_blank hbc, textLines_nil,
        trimLast_concat, trimLast_concat, trimEnd_concat hc]

/-- A text that ends in no blank has no blanks at the end of its last line. -/
theorem trimLast_textLines_of_not_blank (hc : isBlank c = false) (cs : List Char) :
    trimLast (textLines (lines (cs ++ [c]))) = textLines (lines (cs ++ [c])) := by
  have hn : c ≠ '\n' := by
    rintro rfl
    exact absurd hc (by decide)
  obtain ⟨ks, k, -, hkc⟩ := splitAt_concat_of_ne cs hn
  have hb : allBlank (k ++ [c]) = false := by simp [hc]
  have ht : trimEnd (k ++ [c]) = k ++ [c] := by simp [trimEnd, hc]
  rw [lines, hkc, textLines_append, textLines_cons_of_not_blank hb, textLines_nil, trimLast_concat,
    ht]

theorem trimEnd_eq_nil_or_concat (cs : List Char) :
    trimEnd cs = [] ∨ ∃ a c, trimEnd cs = a ++ [c] ∧ isBlank c = false := by
  cases h : cs.reverse.dropWhile isBlank with
  | nil => exact Or.inl (by rw [trimEnd, h]; rfl)
  | cons c r =>
    have hc : isBlank c = false := by
      have hhead := List.head?_dropWhile_not isBlank cs.reverse
      simpa [h] using hhead
    exact Or.inr ⟨r.reverse, c, by simp [trimEnd, h], hc⟩

/-- Trimming a text trims the last of its lines with text. -/
theorem textLines_trimEnd (cs : List Char) :
    textLines (lines (trimEnd cs)) = trimLast (textLines (lines cs)) := by
  have htrimmed : trimLast (textLines (lines (trimEnd cs))) = textLines (lines (trimEnd cs)) := by
    rcases trimEnd_eq_nil_or_concat cs with h | ⟨a, c, h, hc⟩
    · rw [h]
      rfl
    · rw [h, trimLast_textLines_of_not_blank hc]
  rw [← htrimmed]
  apply apply_trimEnd (f := fun cs => trimLast (textLines (lines cs)))
  intro a c hc
  exact trimLast_textLines_concat hc a

end TierRouting.Text
