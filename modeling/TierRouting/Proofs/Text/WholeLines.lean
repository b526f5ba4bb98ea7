import TierRouting.Text.Lines

/-! The lines of a text with their line ends. Only the last of them may be without one, and a text
that ends with a line is cut apart from what follows. -/
namespace TierRouting.Text

variable {a b cs k l r line : List Char} {ls later passed : List (List Char)}

/-- The text is empty or its last line is complete. -/
def EndsLine (cs : List Char) : Prop := ∀ c ∈ cs.getLast?, c = '\n'

theorem endsLine_nil : EndsLine [] := by simp [EndsLine]

theorem endsLine_append_iff (hb : b ≠ []) : EndsLine (a ++ b) ↔ EndsLine b := by
  rw [EndsLine, EndsLine, List.getLast?_append, List.getLast?_eq_some_getLast hb, Option.some_or]

theorem newline_mem_of_endsLine (h : EndsLine (a ++ b)) (hb : b ≠ []) : '\n' ∈ b := by
  rw [endsLine_append_iff hb, EndsLine, List.getLast?_eq_some_getLast hb] at h
  have hend : b.getLast hb = '\n' := h _ rfl
  exact hend ▸ List.getLast_mem hb

theorem wholeLines_newline (r : List Char) : wholeLines ('\n' :: r) = ['\n'] :: wholeLines r :=
  if_pos rfl

/-- A character that does not end a line goes to the first line. -/
theorem wholeLines_cons_of_ne {c : Char} (hc : c ≠ '\n') (r : List Char) :
    wholeLines (c :: r) = (c :: (wholeLines r).head?.getD []) :: (wholeLines r).tail := by
  rw [wholeLines, if_neg hc]
  cases wholeLines r <;> rfl

theorem wholeLines_eq_nil_iff : wholeLines cs = [] ↔ cs = [] := by
  cases cs with
  | nil => simp [wholeLines]
  | cons c r =>
    by_cases hc : c = '\n'
    · subst hc
      simp [wholeLines_newline]
    · simp [wholeLines_cons_of_ne hc]

theorem wholeLines_append (h : EndsLine a) (b : List Char) :
    wholeLines (a ++ b) = wholeLines a ++ wholeLines b := by
  induction a with
  | nil => rfl
  | cons c r ih =>
    by_cases hr : r = []
    · subst hr
      obtain rfl : c = '\n' := h c rfl
      exact wholeLines_newline b
    · have hends : EndsLine r := by
        rw [EndsLine, List.getLast?_cons_of_ne_nil hr] at h
        exact h
      by_cases hc : c = '\n'
      · subst hc
        rw [List.cons_append, wholeLines_newline, wholeLines_newline, ih hends, List.cons_append]
      · obtain ⟨l, ls, hls⟩ := List.exists_cons_of_ne_nil (mt wholeLines_eq_nil_iff.mp hr)
        rw [List.cons_append, wholeLines_cons_of_ne hc, wholeLines_cons_of_ne hc, ih hends, hls]
        rfl

/-- A line with its end. -/
def CompleteLine (l : List Char) : Prop := ∃ k, '\n' ∉ k ∧ l = k ++ ['\n']

theorem CompleteLine.ne_nil (h : CompleteLine l) : l ≠ [] := by
  obtain ⟨k, -, rfl⟩ := h
  exact List.concat_ne_nil _ k

theorem CompleteLine.endsLine (h : CompleteLine l) (a : List Char) : EndsLine (a ++ l) := by
  obtain ⟨k, -, rfl⟩ := h
  simp [EndsLine]

theorem endsLine_flatten (h : ∀ l ∈ ls, CompleteLine l) : EndsLine ls.flatten := by
  rcases ls.eq_nil_or_concat with rfl | ⟨front, l, rfl⟩
  · exact endsLine_nil
  · rw [List.concat_eq_append, List.flatten_concat]
    exact (h l (by simp)).endsLine _

theorem wholeLines_append_newline (hk : '\n' ∉ k) (r : List Char) :
    wholeLines (k ++ '\n' :: r) = (k ++ ['\n']) :: wholeLines r := by
  induction k with
  | nil => exact wholeLines_newline r
  | cons c k ih =>
    have hc : c ≠ '\n' := fun e => hk (by simp [e])
    rw [List.cons_append, wholeLines_cons_of_ne hc, ih fun h => hk (List.mem_cons_of_mem c h)]
    rfl

theorem wholeLines_of_not_mem (hne : l ≠ []) (h : '\n' ∉ l) : wholeLines l = [l] := by
  induction l with
  | nil => exact absurd rfl hne
  | cons c r ih =>
    have hc : c ≠ '\n' := fun e => h (by simp [e])
    by_cases hr : r = []
    · subst hr
      rw [wholeLines_cons_of_ne hc]
      rfl
    · rw [wholeLines_cons_of_ne hc, ih hr fun hmem => h (List.mem_cons_of_mem c hmem)]
      rfl

theorem wholeLines_flatten (h : ∀ l ∈ ls, CompleteLine l) : wholeLines ls.flatten = ls := by
  induction ls with
  | nil => rfl
  | cons l ls ih =>
    obtain ⟨k, hk, rfl⟩ := h l List.mem_cons_self
    rw [List.flatten_cons, List.append_assoc, List.singleton_append, wholeLines_append_newline hk,
      ih fun m hm => h m (List.mem_cons_of_mem _ hm)]

/-- The first line is complete if the text has a line end, and all there is if not. -/
theorem wholeLines_eq_cons (h : wholeLines cs = l :: ls) :
    ('\n' ∉ cs ∧ l = cs ∧ ls = []) ∨
      ∃ k r, '\n' ∉ k ∧ cs = k ++ '\n' :: r ∧ l = k ++ ['\n'] ∧ ls = wholeLines r := by
  by_cases hmem : '\n' ∈ cs
  · obtain ⟨k, r, rfl, hk⟩ := List.eq_append_cons_of_mem hmem
    rw [wholeLines_append_newline hk, List.cons.injEq] at h
    exact .inr ⟨k, r, hk, rfl, h.1.symm, h.2.symm⟩
  · have hne : cs ≠ [] := by
      rintro rfl
      contradiction
    rw [wholeLines_of_not_mem hne hmem, List.cons.injEq] at h
    exact .inl ⟨hmem, h.1.symm, h.2.symm⟩

/-- All lines before another one are complete. -/
theorem completeLine_of_split (h : wholeLines cs = passed ++ line :: later) :
    ∀ l ∈ passed, CompleteLine l := by
  induction passed generalizing cs with
  | nil => exact List.forall_mem_nil _
  | cons p passed ih =>
    rcases wholeLines_eq_cons h with ⟨-, -, hnil⟩ | ⟨k, r, hk, -, rfl, hr⟩
    · simp at hnil
    · rw [List.forall_mem_cons]
      exact ⟨⟨k, hk, rfl⟩, ih hr.symm⟩

/-- Nothing but its end ends a line. -/
theorem newline_not_mem_of_split (h : wholeLines cs = passed ++ (a ++ b) :: later) (hb : b ≠ []) :
    '\n' ∉ a := by
  induction passed generalizing cs with
  | nil =>
    rcases wholeLines_eq_cons h with ⟨hmem, hcs, -⟩ | ⟨k, r, hk, -, hline, -⟩
    · exact fun ha => hmem (hcs ▸ List.mem_append_left b ha)
    · obtain ⟨b', c, rfl⟩ := (List.eq_nil_or_concat b).resolve_left hb
      rw [List.concat_eq_append, ← List.append_assoc] at hline
      rw [← (List.append_inj' hline rfl).1] at hk
      exact fun ha => hk (List.mem_append_left b' ha)
  | cons p passed ih =>
    rcases wholeLines_eq_cons h with ⟨-, -, hnil⟩ | ⟨k, r, hk, -, -, hr⟩
    · simp at hnil
    · exact ih hr.symm

end TierRouting.Text
