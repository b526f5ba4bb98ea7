import TierRouting.Proofs.Text.AsciiLetters
import TierRouting.Text.CharClass
import TierRouting.Text.Lines

/-! Texts with their ASCII letters in lower case, and what stays the same in them. -/
namespace TierRouting.Text

variable {c d : Char} {w : List Char}

/-- The text with its ASCII letters in lower case. -/
def foldCase (cs : List Char) : List Char := cs.map Char.toLower

/-- Two characters are in the same classes, and have the same lower case. -/
structure SameClasses (c d : Char) : Prop where
  lowerChar : lowerChar c = lowerChar d
  cased : isCased c = isCased d
  ignorable : caseIgnorable.contains c = caseIgnorable.contains d
  sigma : c = 'Σ' ↔ d = 'Σ'
  blank : isBlank c = isBlank d
  alphanumeric : isAlphanumeric c = isAlphanumeric d
  ascii : c.toNat < 128 ↔ d.toNat < 128

theorem sameClasses_toLower (c : Char) : SameClasses c.toLower c := by
  cases hc : c.isAlpha with
  | false =>
    rw [toLower_eq_self hc]
    exact ⟨rfl, rfl, rfl, .rfl, rfl, rfl, .rfl⟩
  | true =>
    have hall : ∀ n < 123, let c := Char.ofNat n
        lowerChar c.toLower = lowerChar c ∧ isCased c.toLower = isCased c ∧
        caseIgnorable.contains c.toLower = caseIgnorable.contains c ∧
        (c.toLower = 'Σ' ↔ c = 'Σ') ∧ isBlank c.toLower = isBlank c ∧
        isAlphanumeric c.toLower = isAlphanumeric c ∧
        (c.toLower.toNat < 128 ↔ c.toNat < 128) := by decide +kernel
    have hclasses := hall c.toNat (toNat_lt_of_isAlpha hc)
    rw [Char.ofNat_toNat] at hclasses
    obtain ⟨hlower, hcased, hignorable, hsigma, hblank, halnum, hascii⟩ := hclasses
    exact ⟨hlower, hcased, hignorable, hsigma, hblank, halnum, hascii⟩

/-- A sign or digit comes from itself alone. -/
theorem toLower_eq_iff (hd : d.isAlpha = false) : c.toLower = d ↔ c = d := by
  constructor
  · rintro rfl
    rw [Char.isAlpha_toLower_eq_isAlpha] at hd
    exact (toLower_eq_self hd).symm
  · rintro rfl
    exact toLower_eq_self hd

theorem casedAhead_foldCase (cs : List Char) : casedAhead (foldCase cs) = casedAhead cs := by
  induction cs with
  | nil => rfl
  | cons c r ih =>
    have hc := sameClasses_toLower c
    rw [foldCase, List.map_cons, casedAhead, casedAhead, List.dropWhile_cons, List.dropWhile_cons,
      hc.ignorable]
    split
    · exact ih
    · exact hc.cased

/-- A sigma takes the same form beside letters of either case. -/
theorem lowerAfter_foldCase (before cs : List Char) :
    lowerAfter (foldCase before) (foldCase cs) = lowerAfter before cs := by
  induction cs generalizing before with
  | nil => rfl
  | cons c r ih =>
    have hc := sameClasses_toLower c
    have hrest : lowerAfter (c.toLower :: foldCase before) (foldCase r) =
        lowerAfter (c :: before) r := ih (c :: before)
    have hcons : foldCase (c :: r) = c.toLower :: foldCase r := rfl
    rw [hcons, lowerAfter, lowerAfter, hrest, casedAhead_foldCase, casedAhead_foldCase,
      hc.lowerChar]
    simp only [hc.sigma]

theorem lowercase_foldCase (cs : List Char) : lowercase (foldCase cs) = lowercase cs :=
  lowerAfter_foldCase [] cs

theorem runs_map {p : Char → Bool} {f : Char → Char} (hf : ∀ c, p (f c) = p c) (cs : List Char) :
    runs p (cs.map f) = (runs p cs).map (List.map f) := by
  induction cs with
  | nil => rfl
  | cons c r ih =>
    have hhead : (r.map f).head?.any p = r.head?.any p := by cases r <;> simp [hf]
    rw [List.map_cons, runs, runs, hf, hhead, ih]
    split
    · split
      · cases runs p r <;> rfl
      · rfl
    · rfl

theorem length_words_foldCase (cs : List Char) :
    (words (foldCase cs)).length = (words cs).length := by
  rw [words, words, foldCase, runs_map fun c => by rw [(sameClasses_toLower c).blank],
    List.length_map]

theorem count_foldCase (hd : d.isAlpha = false) (cs : List Char) :
    (foldCase cs).count d = cs.count d := by
  have hsame : ((· == d) ∘ Char.toLower) = (· == d) :=
    funext fun c => Bool.eq_iff_iff.mpr (by simp [toLower_eq_iff hd])
  rw [foldCase, List.count_eq_countP, List.countP_map, hsame, List.count_eq_countP]

theorem isPrefixOf_foldCase (hw : ∀ d ∈ w, d.isAlpha = false) (cs : List Char) :
    w.isPrefixOf (foldCase cs) = w.isPrefixOf cs := by
  induction w generalizing cs with
  | nil => simp
  | cons d w ih =>
    obtain ⟨hd, hw⟩ := List.forall_mem_cons.mp hw
    cases cs with
    | nil => rfl
    | cons c r =>
      have hsame : (d == c.toLower) = (d == c) := by
        rw [Bool.eq_iff_iff, beq_iff_eq, beq_iff_eq, eq_comm, toLower_eq_iff hd, eq_comm]
      rw [foldCase, List.map_cons, List.isPrefixOf_cons_cons, List.isPrefixOf_cons_cons, hsame]
      exact congrArg _ (ih hw r)

/-- A phrase without letters occurs in a text of either case. -/
theorem occursIn_foldCase (hw : ∀ d ∈ w, d.isAlpha = false) (cs : List Char) :
    occursIn w (foldCase cs) = occursIn w cs := by
  induction cs with
  | nil => rfl
  | cons c r ih =>
    have hcons : foldCase (c :: r) = c.toLower :: foldCase r := rfl
    rw [hcons, occursIn, occursIn, ih, ← hcons, isPrefixOf_foldCase hw]

end TierRouting.Text
