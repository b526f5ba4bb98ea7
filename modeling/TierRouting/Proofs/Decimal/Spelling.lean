import TierRouting.Decimal.Read

/-! A decimal number is read as the parts that it is written in. -/
namespace TierRouting.Decimal

variable {w : Written} {c : Char} {sign : Option Char} {ds r : List Char}

theorem not_isSign_of_isDigit (h : c.isDigit = true) : isSign c = false := by
  rw [Bool.eq_false_iff]
  intro hs
  simp only [isSign, Bool.or_eq_true, beq_iff_eq] at hs
  rcases hs with rfl | rfl
  · contradiction
  · contradiction

/-- Digits come first that a sign may precede. -/
theorem takeSign_append (hs : ∀ c ∈ sign, isSign c = true) (hne : ds ≠ [])
    (hd : ∀ c ∈ ds, c.isDigit = true) : takeSign (sign.toList ++ (ds ++ r)) = (sign, ds ++ r) := by
  cases sign with
  | some c => simp [takeSign, hs c rfl]
  | none =>
    obtain ⟨c, ds, rfl⟩ := List.exists_cons_of_ne_nil hne
    simp [takeSign, not_isSign_of_isDigit (hd c List.mem_cons_self)]

namespace Written

def exponentChars : Option (Option Char × List Char) → List Char
  | none => []
  | some (sign, digits) => 'e' :: (sign.toList ++ digits)

def fractionChars : Option (List Char) → List Char
  | none => []
  | some digits => '.' :: digits

def chars (w : Written) : List Char :=
  w.sign.toList ++ (w.whole ++ (fractionChars w.fraction ++ exponentChars w.exponent))

/-- The parts hold what they stand for. -/
structure IsSpelled (w : Written) : Prop where
  sign : ∀ c ∈ w.sign, isSign c = true
  whole_ne_nil : w.whole ≠ []
  whole : ∀ c ∈ w.whole, c.isDigit = true
  fraction : ∀ digits ∈ w.fraction, ∀ c ∈ digits, c.isDigit = true
  exponent_sign : ∀ e ∈ w.exponent, ∀ c ∈ e.1, isSign c = true
  exponent_ne_nil : ∀ e ∈ w.exponent, e.2 ≠ []
  exponent : ∀ e ∈ w.exponent, ∀ c ∈ e.2, c.isDigit = true

namespace IsSpelled

theorem takeExponent?_exponentChars (h : w.IsSpelled) :
    takeExponent? (exponentChars w.exponent) = some w.exponent := by
  cases he : w.exponent with
  | none => rfl
  | some e =>
    obtain ⟨sign, digits⟩ := e
    have hdigits := h.exponent _ he
    have htake := takeSign_append (r := []) (h.exponent_sign _ he) (h.exponent_ne_nil _ he) hdigits
    rw [List.append_nil] at htake
    have hall : digits.all Char.isDigit = true := List.all_eq_true.mpr hdigits
    have hne : digits ≠ [] := h.exponent_ne_nil _ he
    simp [exponentChars, takeExponent?, htake, hne, hall]

theorem takeWhile_isDigit_exponentChars (e : Option (Option Char × List Char)) :
    (exponentChars e).takeWhile Char.isDigit = [] := by
  cases e with
  | none => rfl
  | some e => simp [exponentChars]

theorem dropWhile_isDigit_exponentChars (e : Option (Option Char × List Char)) :
    (exponentChars e).dropWhile Char.isDigit = exponentChars e := by
  cases e with
  | none => rfl
  | some e => simp [exponentChars]

theorem ofChars?_chars (h : w.IsSpelled) : ofChars? w.chars = some w := by
  have hexp := h.takeExponent?_exponentChars
  obtain ⟨sign, whole, fraction, exponent⟩ := w
  simp only [ofChars?, chars]
  rw [takeSign_append h.sign h.whole_ne_nil h.whole]
  simp only [List.takeWhile_append_of_pos h.whole, List.dropWhile_append_of_pos h.whole]
  cases fraction with
  | none =>
    simp only [fractionChars, List.nil_append, takeWhile_isDigit_exponentChars,
      dropWhile_isDigit_exponentChars, List.append_nil]
    split
    · next r hr =>
      -- An exponent does not begin with a point.
      cases exponent with
      | none => simp [exponentChars] at hr
      | some e => simp [exponentChars] at hr
    · rw [hexp]
      rfl
  | some digits =>
    have hdigits := h.fraction digits rfl
    simp [fractionChars, List.takeWhile_append_of_pos hdigits,
      List.dropWhile_append_of_pos hdigits, takeWhile_isDigit_exponentChars,
      dropWhile_isDigit_exponentChars, hexp]

end IsSpelled
end Written
end TierRouting.Decimal
