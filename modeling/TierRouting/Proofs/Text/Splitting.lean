import TierRouting.Text.Lines

/-! Lines and texts correspond: a text is read back from its lines, lines from their text. -/
namespace TierRouting.Text

variable {sep c : Char} {a b l t w cs : List Char} {ls : List (List Char)}

@[simp] theorem joinWith_nil : joinWith sep [] = [] := rfl

@[simp] theorem joinWith_singleton : joinWith sep [l] = l := rfl

theorem joinWith_cons (h : ls ≠ []) : joinWith sep (l :: ls) = l ++ sep :: joinWith sep ls := by
  obtain ⟨k, ks, rfl⟩ := List.exists_cons_of_ne_nil h
  rfl

theorem mem_joinWith (h : c ∈ joinWith sep ls) : c = sep ∨ ∃ l ∈ ls, c ∈ l := by
  induction ls with
  | nil => exact absurd h List.not_mem_nil
  | cons l ls ih =>
    by_cases hls : ls = []
    · subst hls
      exact .inr ⟨l, List.mem_cons_self, h⟩
    · rw [joinWith_cons hls, List.mem_append, List.mem_cons] at h
      rcases h with hl | hsep | hrest
      · exact .inr ⟨l, List.mem_cons_self, hl⟩
      · exact .inl hsep
      · rcases ih hrest with hsep | ⟨k, hk, hmem⟩
        · exact .inl hsep
        · exact .inr ⟨k, List.mem_cons_of_mem l hk, hmem⟩

theorem splitAt_cons_self : splitAt sep (sep :: cs) = [] :: splitAt sep cs := by
  rw [splitAt, if_pos rfl]

/-- A character that does not separate goes to the first piece. -/
theorem splitAt_cons_of_ne (cs : List Char) (h : c ≠ sep) :
    ∃ k ks, splitAt sep cs = k :: ks ∧ splitAt sep (c :: cs) = (c :: k) :: ks := by
  obtain ⟨k, ks, hk⟩ := List.exists_cons_of_ne_nil (splitAt_ne_nil sep cs)
  exact ⟨k, ks, hk, by rw [splitAt, if_neg h, hk]⟩

theorem splitAt_append (ha : sep ∉ a) : splitAt sep (a ++ sep :: b) = a :: splitAt sep b := by
  induction a with
  | nil => exact splitAt_cons_self
  | cons c a ih =>
    have hc : c ≠ sep := fun e => ha (by simp [e])
    rw [List.cons_append, splitAt, if_neg hc, ih fun h => ha (List.mem_cons_of_mem _ h)]

theorem splitAt_of_not_mem (ha : sep ∉ a) : splitAt sep a = [a] := by
  induction a with
  | nil => rfl
  | cons c a ih =>
    have hc : c ≠ sep := fun e => ha (by simp [e])
    rw [splitAt, if_neg hc, ih fun h => ha (List.mem_cons_of_mem _ h)]

theorem not_mem_of_mem_splitAt (h : l ∈ splitAt sep cs) : sep ∉ l := by
  induction cs generalizing l with
  | nil =>
    rw [splitAt, List.mem_singleton] at h
    simp [h]
  | cons c r ih =>
    by_cases hc : c = sep
    · subst hc
      rw [splitAt_cons_self] at h
      rcases List.mem_cons.mp h with rfl | h
      · simp
      · exact ih h
    · obtain ⟨k, ks, hr, hs⟩ := splitAt_cons_of_ne r hc
      rw [hs] at h
      rw [hr] at ih
      rcases List.mem_cons.mp h with rfl | h
      · have hk : sep ∉ k := ih List.mem_cons_self
        simpa [Ne.symm hc] using hk
      · exact ih (List.mem_cons_of_mem _ h)

theorem splitAt_joinWith (hne : ls ≠ []) (h : ∀ l ∈ ls, sep ∉ l) :
    splitAt sep (joinWith sep ls) = ls := by
  induction ls with
  | nil => exact absurd rfl hne
  | cons l ls ih =>
    have hl : sep ∉ l := h l List.mem_cons_self
    by_cases hls : ls = []
    · subst hls
      exact splitAt_of_not_mem hl
    · rw [joinWith_cons hls, splitAt_append hl,
        ih hls fun k hk => h k (List.mem_cons_of_mem _ hk)]

/-- A separator between two texts keeps their pieces apart. -/
theorem splitAt_append_sep : splitAt sep (a ++ sep :: b) = splitAt sep a ++ splitAt sep b := by
  induction a with
  | nil => exact splitAt_cons_self
  | cons c a ih =>
    by_cases hc : c = sep
    · subst hc
      rw [List.cons_append, splitAt_cons_self, splitAt_cons_self, ih, List.cons_append]
    · obtain ⟨k, ks, ha, hs⟩ := splitAt_cons_of_ne a hc
      rw [ha] at ih
      rw [hs, List.cons_append, splitAt, if_neg hc, ih, List.cons_append, List.cons_append]

/-- A character that does not separate goes to the last piece. -/
theorem splitAt_concat_of_ne (cs : List Char) (h : c ≠ sep) :
    ∃ ks k, splitAt sep cs = ks ++ [k] ∧ splitAt sep (cs ++ [c]) = ks ++ [k ++ [c]] := by
  induction cs with
  | nil =>
    have hc : sep ∉ [c] := by simpa using h.symm
    exact ⟨[], [], rfl, splitAt_of_not_mem hc⟩
  | cons d r ih =>
    obtain ⟨ks, k, hr, hs⟩ := ih
    by_cases hd : d = sep
    · subst hd
      refine ⟨[] :: ks, k, ?_, ?_⟩
      · rw [splitAt_cons_self, hr, List.cons_append]
      · rw [List.cons_append, splitAt_cons_self, hs, List.cons_append]
    · cases ks with
      | nil =>
        refine ⟨[], d :: k, ?_, ?_⟩
        · rw [splitAt, if_neg hd, hr]
          rfl
        · rw [List.cons_append, splitAt, if_neg hd, hs]
          rfl
      | cons j ks =>
        refine ⟨(d :: j) :: ks, k, ?_, ?_⟩
        · rw [splitAt, if_neg hd, hr]
          rfl
        · rw [List.cons_append, splitAt, if_neg hd, hs]
          rfl

theorem cons_joinWith (h : ls ≠ []) : sep :: joinWith sep ls = ls.flatMap (sep :: ·) := by
  induction ls with
  | nil => exact absurd rfl h
  | cons l ls ih =>
    by_cases hls : ls = []
    · subst hls
      simp
    · rw [joinWith_cons hls, List.flatMap_cons, ← ih hls, List.cons_append]

theorem cons_eq_flatMap_splitAt (cs : List Char) :
    sep :: cs = (splitAt sep cs).flatMap (sep :: ·) := by
  rw [← cons_joinWith (splitAt_ne_nil sep cs), joinWith_splitAt]

/-- A text occurs between separators just when its pieces stand among the pieces in a row. -/
theorem infix_between_iff :
    sep :: a ++ [sep] <:+: sep :: t ++ [sep] ↔ splitAt sep a <:+: splitAt sep t := by
  constructor
  · rintro ⟨x, y, h⟩
    have hcut : splitAt sep x ++ (splitAt sep a ++ splitAt sep y) =
        [] :: (splitAt sep t ++ [[]]) := by
      have hpieces := congrArg (splitAt sep) h
      have hend : splitAt sep [] = [[]] := rfl
      simpa [splitAt_append_sep, splitAt_cons_self, hend] using hpieces
    obtain ⟨k, X, hx⟩ := List.exists_cons_of_ne_nil (splitAt_ne_nil sep x)
    obtain ⟨Y, j, hy⟩ :=
      List.eq_nil_or_concat (splitAt sep y) |>.resolve_left (splitAt_ne_nil sep y)
    rw [hx, hy] at hcut
    obtain ⟨-, htail⟩ := List.cons.inj hcut
    have hlast : (X ++ (splitAt sep a ++ Y)) ++ [j] = splitAt sep t ++ [[]] := by
      simpa [List.append_assoc] using htail
    obtain ⟨ht, -⟩ := List.append_inj' hlast rfl
    exact ⟨X, Y, by rw [← ht, List.append_assoc]⟩
  · rintro ⟨X, Y, h⟩
    have hsep : ∃ z, Y.flatMap (sep :: ·) ++ [sep] = sep :: z := by
      cases Y with
      | nil => exact ⟨[], rfl⟩
      | cons l Y => exact ⟨_, rfl⟩
    obtain ⟨z, hz⟩ := hsep
    refine ⟨X.flatMap (sep :: ·), z, ?_⟩
    calc X.flatMap (sep :: ·) ++ (sep :: a ++ [sep]) ++ z
        = X.flatMap (sep :: ·) ++ (sep :: a) ++ (sep :: z) := by simp
      _ = (X ++ splitAt sep a ++ Y).flatMap (sep :: ·) ++ [sep] := by
        rw [← hz, List.flatMap_append, List.flatMap_append, ← cons_eq_flatMap_splitAt]
        simp
      _ = sep :: t ++ [sep] := by rw [h, ← cons_eq_flatMap_splitAt]

theorem splitFirst_append (b : List Char) (ha : sep ∉ a) :
    splitFirst sep (a ++ sep :: b) = some (a, b) := by
  induction a with
  | nil => exact if_pos rfl
  | cons c a ih =>
    have hc : c ≠ sep := fun e => ha (by simp [e])
    rw [List.cons_append, splitFirst, if_neg hc, ih fun h => ha (List.mem_cons_of_mem _ h)]
    rfl

theorem splitFirst_of_not_mem (hcs : sep ∉ cs) : splitFirst sep cs = none := by
  induction cs with
  | nil => rfl
  | cons c r ih =>
    have hc : c ≠ sep := fun e => hcs (by simp [e])
    rw [splitFirst, if_neg hc, ih fun h => hcs (List.mem_cons_of_mem _ h)]
    rfl

theorem lines_ne_nil (cs : List Char) : lines cs ≠ [] := splitAt_ne_nil _ cs

theorem unlines_lines (cs : List Char) : unlines (lines cs) = cs := joinWith_splitAt _ cs

theorem newline_not_mem (h : l ∈ lines cs) : '\n' ∉ l := not_mem_of_mem_splitAt h

theorem lines_unlines (hne : ls ≠ []) (h : ∀ l ∈ ls, '\n' ∉ l) : lines (unlines ls) = ls :=
  splitAt_joinWith hne h

/-- No occurrence of a text without separators reaches across one. -/
theorem infix_append_sep_iff (h : sep ∉ w) : w <:+: a ++ sep :: b ↔ w <:+: a ∨ w <:+: b := by
  rw [List.infix_append_iff_ne_nil]
  constructor
  · rintro (hw | hw | ⟨u, v, -, hv, rfl, -, hp⟩)
    · exact Or.inl hw
    · rcases List.infix_cons_iff.mp hw with hp | hw
      · rcases List.prefix_cons_iff.mp hp with rfl | ⟨t, rfl, -⟩
        · exact Or.inl List.nil_infix
        · simp at h
      · exact Or.inr hw
    · rcases List.prefix_cons_iff.mp hp with rfl | ⟨t, rfl, -⟩
      · exact absurd rfl hv
      · simp at h
  · rintro (hw | hw)
    · exact Or.inl hw
    · exact Or.inr (Or.inl (List.infix_cons hw))

/-- A nonempty text on one line occurs in a text just when it occurs in one of the lines. -/
theorem infix_unlines_iff (hw : w ≠ []) (hn : '\n' ∉ w) :
    w <:+: unlines ls ↔ ∃ l ∈ ls, w <:+: l := by
  induction ls with
  | nil => simp [unlines, hw]
  | cons l ls ih =>
    by_cases hls : ls = []
    · subst hls
      simp [unlines]
    · have hu : unlines (l :: ls) = l ++ '\n' :: unlines ls := joinWith_cons hls
      rw [hu, infix_append_sep_iff hn, ih]
      simp

end TierRouting.Text
