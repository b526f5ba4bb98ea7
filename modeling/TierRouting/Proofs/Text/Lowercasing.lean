import TierRouting.Text.CharClass
import TierRouting.Text.Lowercase

/-! Lower case and blanks: the texts on both sides of a blank do not depend on each other. -/
namespace TierRouting.Text

variable {c d : Char} {a b before cs : List Char}

/-- The numbers of all blanks. -/
def blankCodes : List Nat :=
  [9, 10, 11, 12, 13, 32, 0x85, 0xa0, 0x1680, 0x2000, 0x2001, 0x2002, 0x2003, 0x2004, 0x2005,
    0x2006, 0x2007, 0x2008, 0x2009, 0x200a, 0x2028, 0x2029, 0x202f, 0x205f, 0x3000]

theorem toNat_mem_blankCodes (hc : isBlank c = true) : c.toNat ∈ blankCodes := by
  simp only [isBlank, Bool.or_eq_true, Bool.and_eq_true, decide_eq_true_eq, beq_iff_eq] at hc
  simp only [blankCodes, List.mem_cons, List.not_mem_nil, or_false]
  omega

/-- What the tables say of blanks: they are no letters, belong to no word and have no case. -/
structure Caseless (c : Char) : Prop where
  not_cased : isCased c = false
  not_ignorable : caseIgnorable.contains c = false
  ne_sigma : c ≠ 'Σ'
  lowerChar_eq : lowerChar c = [c]
  not_word : isWordChar c = false

theorem caseless_of_blank (hc : isBlank c = true) : Caseless c := by
  have hall : ∀ n ∈ blankCodes, isCased (.ofNat n) = false ∧
      caseIgnorable.contains (.ofNat n) = false ∧ Char.ofNat n ≠ 'Σ' ∧
      lowerChar (.ofNat n) = [.ofNat n] ∧ isWordChar (.ofNat n) = false := by decide +kernel
  have hcode := hall c.toNat (toNat_mem_blankCodes hc)
  rw [Char.ofNat_toNat] at hcode
  obtain ⟨hcased, hignorable, hsigma, hlower, hword⟩ := hcode
  exact ⟨hcased, hignorable, hsigma, hlower, hword⟩

theorem casedAhead_append_blank (hc : isBlank c = true) (a b : List Char) :
    casedAhead (a ++ c :: b) = casedAhead a := by
  have hcaseless := caseless_of_blank hc
  induction a with
  | nil => simp [casedAhead, hcaseless.not_ignorable, hcaseless.not_cased]
  | cons d a ih =>
    rw [List.cons_append, casedAhead, casedAhead, List.dropWhile_cons, List.dropWhile_cons]
    split
    · exact ih
    · rfl

/-- What stands behind a blank does not depend on what precedes it. -/
theorem lowerAfter_blank_before (hc : isBlank c = true) (a before b : List Char) :
    lowerAfter (a ++ c :: before) b = lowerAfter a b := by
  induction b generalizing a with
  | nil => rfl
  | cons d b ih =>
    have hrest : lowerAfter (d :: a ++ c :: before) b = lowerAfter (d :: a) b := ih (d :: a)
    rw [lowerAfter, lowerAfter, casedAhead_append_blank hc, ← List.cons_append, hrest]

theorem lowerAfter_append_blank (hc : isBlank c = true) (before a b : List Char) :
    lowerAfter before (a ++ c :: b) = lowerAfter before a ++ c :: lowercase b := by
  induction a generalizing before with
  | nil =>
    have hcaseless := caseless_of_blank hc
    have hrest : lowerAfter (c :: before) b = lowercase b := lowerAfter_blank_before hc [] before b
    simp [lowerAfter, hcaseless.ne_sigma, hcaseless.lowerChar_eq, hrest]
  | cons d a ih =>
    rw [List.cons_append, lowerAfter, lowerAfter, ih, casedAhead_append_blank hc,
      List.append_assoc]

/-- The texts on both sides of a blank have their lower case on their own. -/
theorem lowercase_append_blank (hc : isBlank c = true) (a b : List Char) :
    lowercase (a ++ c :: b) = lowercase a ++ c :: lowercase b :=
  lowerAfter_append_blank hc [] a b

/-- A character without case stays in a text. -/
theorem mem_lowercase (hsigma : c ≠ 'Σ') (hlower : lowerChar c = [c]) (h : c ∈ cs) :
    c ∈ lowercase cs := by
  have hafter : ∀ before, c ∈ lowerAfter before cs := by
    induction cs with
    | nil => simp at h
    | cons d r ih =>
      intro before
      rw [lowerAfter, List.mem_append]
      rcases List.mem_cons.mp h with rfl | h
      · rw [if_neg hsigma, hlower]
        exact Or.inl (List.mem_singleton.mpr rfl)
      · exact Or.inr (ih h (d :: before))
  exact hafter []

end TierRouting.Text
