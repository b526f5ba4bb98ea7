import TierRouting.Prompt.Fence
import TierRouting.Proofs.Text.TextLines

/-! The titles that a scan of a text finds, and changes of the text that it does not notice. -/
namespace TierRouting.Prompt

open Text

variable {state : Option Fence} {f : Fence} {l : Line} {ls ks : List Line} {c : Char}
  {t : List Char}

/-- The state of the scan behind the lines. -/
def stateAfter (state : Option Fence) (ls : List Line) : Option Fence :=
  ls.foldl (fun s l => (step s l).1) state

/-- The titles of the headers among the lines. -/
def titlesFrom (state : Option Fence) (ls : List Line) : List (List Char) :=
  (markHeaders state ls).filterMap (·.1)

/-- The titles of the headers of a text. -/
def titles (text : List Char) : List (List Char) := titlesFrom none (lines text)

@[simp] theorem markHeaders_nil : markHeaders state [] = [] := rfl

@[simp] theorem markHeaders_cons :
    markHeaders state (l :: ls) = ((step state l).2, l) :: markHeaders (step state l).1 ls := rfl

@[simp] theorem titlesFrom_nil : titlesFrom state [] = [] := rfl

theorem titlesFrom_cons :
    titlesFrom state (l :: ls) = (step state l).2.toList ++ titlesFrom (step state l).1 ls := by
  rw [titlesFrom, markHeaders_cons, List.filterMap_cons]
  cases (step state l).2 <;> rfl

theorem map_snd_markHeaders (state : Option Fence) (ls : List Line) :
    (markHeaders state ls).map (·.2) = ls := by
  induction ls generalizing state with
  | nil => rfl
  | cons l ls ih => rw [markHeaders_cons, List.map_cons, ih]

theorem titlesFrom_append :
    titlesFrom state (ls ++ ks) = titlesFrom state ls ++ titlesFrom (stateAfter state ls) ks := by
  induction ls generalizing state with
  | nil => rfl
  | cons l ls ih =>
    rw [List.cons_append, titlesFrom_cons, titlesFrom_cons, ih, List.append_assoc]
    rfl

/-- A header stands outside every block and leaves the scan there. -/
theorem step_eq_of_title (h : (step state l).2 = some t) :
    state = none ∧ (step state l).1 = none := by
  cases state with
  | some f => simp [step] at h
  | none =>
    refine ⟨rfl, ?_⟩
    cases ho : opened? l with
    | some f => simp [step, ho] at h
    | none => simp [step, ho]

theorem step_of_blank (h : allBlank l = true) : step state l = (state, none) := by
  have hm : marker? l = none := by rw [marker?, trimStart_eq_nil_iff.mpr h]
  cases state with
  | some f => simp [step, Fence.isClosedBy, hm]
  | none => simp [step, opened?, hm, title?, trimStart_eq_nil_iff.mpr h]

theorem titlesFrom_cons_of_blank (h : allBlank l = true) :
    titlesFrom state (l :: ls) = titlesFrom state ls := by
  rw [titlesFrom_cons, step_of_blank h]
  rfl

/-- Lines without text neither open, close nor title anything. -/
theorem titlesFrom_textLines (state : Option Fence) (ls : List Line) :
    titlesFrom state (textLines ls) = titlesFrom state ls := by
  induction ls generalizing state with
  | nil => rfl
  | cons l ls ih =>
    cases h : allBlank l with
    | true => rw [textLines_cons_of_blank h, titlesFrom_cons_of_blank h, ih]
    | false => rw [textLines_cons_of_not_blank h, titlesFrom_cons, titlesFrom_cons, ih]

theorem takeWhile_concat_of_not {p : Char → Bool} (hc : p c = false) (cs : List Char) :
    (cs ++ [c]).takeWhile p = cs.takeWhile p := by
  induction cs with
  | nil => simp [hc]
  | cons d r ih => cases hd : p d <;> simp_all

theorem dropWhile_concat_of_not {p : Char → Bool} (hc : p c = false) (cs : List Char) :
    (cs ++ [c]).dropWhile p = cs.dropWhile p ++ [c] := by
  induction cs with
  | nil => simp [hc]
  | cons d r ih => cases hd : p d <;> simp_all

theorem marker?_concat (hc : isBlank c = true) :
    marker? (l ++ [c]) = (marker? l).map fun m => (m.1, m.2 ++ [c]) := by
  cases h : allBlank l with
  | true =>
    have ha : allBlank (l ++ [c]) = true := by simp [h, hc]
    rw [marker?, marker?, trimStart_eq_nil_iff.mpr ha, trimStart_eq_nil_iff.mpr h]
    rfl
  | false =>
    obtain ⟨d, r, ht, hd⟩ := exists_trimStart_cons h
    have hcd : (c == d) = false := by
      rw [beq_eq_false_iff_ne]
      rintro rfl
      simp [hc] at hd
    rw [marker?, marker?, trimStart_append h, ht]
    simp only [List.cons_append]
    rw [← List.cons_append, takeWhile_concat_of_not (p := (· == d)) hcd,
      dropWhile_concat_of_not (p := (· == d)) hcd]
    split <;> rfl

theorem admits_concat (hc : isBlank c = true) (info : Line) :
    f.admits (info ++ [c]) = f.admits info := by
  have hb : ∀ d, isBlank d = false → c ≠ d := by
    rintro d hd rfl
    simp [hc] at hd
  have ho : occursIn "~~~".toList (info ++ [c]) = occursIn "~~~".toList info := by
    rw [Bool.eq_iff_iff, occursIn_iff, occursIn_iff]
    exact infix_append_blank_iff (w := ['~', '~']) (c := '~') (by decide) (by simp [hc])
  rw [Fence.admits, Fence.admits, ho]
  simp [(hb backtick (by decide)).symm]

theorem isClosedBy_concat (hc : isBlank c = true) : f.isClosedBy (l ++ [c]) = f.isClosedBy l := by
  rw [Fence.isClosedBy, Fence.isClosedBy, marker?_concat hc]
  cases marker? l <;> simp [hc]

theorem opened?_concat (hc : isBlank c = true) : opened? (l ++ [c]) = opened? l := by
  rw [opened?, opened?, marker?_concat hc]
  cases marker? l <;> simp [admits_concat hc]

/-- A blank at the end of a line can only hide a header without a title. -/
theorem title?_concat (hc : isBlank c = true) :
    title? (l ++ [c]) = title? l ∨ title? (l ++ [c]) = none ∧ title? l = some [] := by
  cases h : allBlank l with
  | true =>
    have ha : allBlank (l ++ [c]) = true := by simp [h, hc]
    rw [title?, title?, trimStart_eq_nil_iff.mpr ha, trimStart_eq_nil_iff.mpr h]
    exact Or.inl rfl
  | false =>
    have hh : (c == '#') = false := by
      rw [beq_eq_false_iff_ne]
      rintro rfl
      exact absurd hc (by decide)
    rw [title?, title?, trimStart_append h]
    simp only [takeWhile_concat_of_not (p := (· == '#')) hh]
    generalize hn : ((trimStart l).takeWhile (· == '#')).length = n
    have hle : n ≤ (trimStart l).length := hn ▸ (List.takeWhile_sublist _).length_le
    rw [List.drop_append_of_le_length hle]
    by_cases hs : n = 0 ∨ 6 < n
    · simp [hs]
    · simp only [if_neg hs]
      cases (trimStart l).drop n with
      | nil =>
        by_cases hb : c = ' ' ∨ c = '\t'
        · have hnil : trim [c] = [] := trim_concat [] hc
          exact Or.inl (by simp [hb, hnil])
        · exact Or.inr (by simp [hb])
      | cons d r =>
        have htrim : trim (d :: (r ++ [c])) = trim (d :: r) := trim_concat (d :: r) hc
        simp [htrim]

theorem step_concat (state : Option Fence) (l : Line) (hc : isBlank c = true) :
    (step state (l ++ [c])).1 = (step state l).1 ∧
      ((step state (l ++ [c])).2 = (step state l).2 ∨
        (step state (l ++ [c])).2 = none ∧ (step state l).2 = some []) := by
  cases state with
  | some f => simp [step, isClosedBy_concat hc]
  | none =>
    cases ho : opened? l with
    | some f => simp [step, opened?_concat hc, ho]
    | none => simpa [step, opened?_concat hc, ho] using title?_concat hc

section Filtered

variable {p : List Char → Bool} {cs : List Char}

theorem titlesFrom_last_filter (hp : p [] = false) (hc : isBlank c = true) :
    (titlesFrom state (ls ++ [l ++ [c]])).filter p = (titlesFrom state (ls ++ [l])).filter p := by
  obtain ⟨-, ht⟩ := step_concat (stateAfter state ls) l hc
  simp only [titlesFrom_append, titlesFrom_cons, titlesFrom_nil, List.filter_append]
  rcases ht with ht | ⟨ha, hb⟩
  · rw [ht]
  · simp [ha, hb, hp]

theorem titles_concat_filter (hp : p [] = false) (hc : isBlank c = true) :
    (titles (cs ++ [c])).filter p = (titles cs).filter p := by
  by_cases hn : c = '\n'
  · subst hn
    have hl : lines (cs ++ ['\n']) = lines cs ++ [[]] := splitAt_append_sep
    rw [titles, hl, titlesFrom_append, titlesFrom_cons_of_blank rfl]
    simp [titles]
  · obtain ⟨ks, k, hk, hkc⟩ := splitAt_concat_of_ne cs hn
    rw [titles, titles, lines, lines, hk, hkc]
    exact titlesFrom_last_filter hp hc

/-- Blanks at the end of a text matter only to headers without a title. -/
theorem titles_trimEnd_filter (hp : p [] = false) (cs : List Char) :
    (titles (trimEnd cs)).filter p = (titles cs).filter p := by
  apply apply_trimEnd (f := fun cs => (titles cs).filter p)
  intro a c hc
  exact titles_concat_filter hp hc

end Filtered
end TierRouting.Prompt
