import TierRouting.Json.Reader
import TierRouting.Proofs.Decimal.Finite
import TierRouting.Proofs.Decimal.Shortest
import TierRouting.Proofs.Decimal.Spelling

/-! Numbers are written in the form in which they are read. -/
namespace TierRouting.Decimal

variable {w : Written} {n : Nat} {c : Char}

theorem digits_toDigits (n : Nat) : ∀ c ∈ Nat.toDigits 10 n, c.isDigit = true :=
  fun _ => Nat.isDigit_of_mem_toDigits (by decide) (by decide)

/-- Digits without a needless zero in front. -/
structure Significant (ds : List Char) : Prop where
  ne_nil : ds ≠ []
  digits : ∀ c ∈ ds, c.isDigit = true
  head : ds.head? ≠ some '0'

theorem head?_append_left {ds es : List Char} (h : ds ≠ []) : (ds ++ es).head? = ds.head? := by
  obtain ⟨c, r, rfl⟩ := List.exists_cons_of_ne_nil h
  rfl

theorem head?_toDigits_ne (hn : 0 < n) : (Nat.toDigits 10 n).head? ≠ some '0' := by
  induction n using Nat.strongRecOn with
  | ind n ih =>
    by_cases hlt : n < 10
    · have hchar : ∀ m < 10, 0 < m → m.digitChar ≠ '0' := by decide
      simpa [Nat.toDigits_of_lt_base hlt] using hchar n hlt hn
    · have hle : 10 ≤ n := Nat.not_lt.mp hlt
      rw [Nat.toDigits_of_base_le (by decide) hle, head?_append_left Nat.toDigits_ne_nil]
      exact ih (n / 10) (by omega) (by omega)

theorem significant_toDigits (hn : 0 < n) : Significant (Nat.toDigits 10 n) :=
  ⟨Nat.toDigits_ne_nil, digits_toDigits n, head?_toDigits_ne hn⟩

theorem Significant.ne_zero_cons {ds r : List Char} (h : Significant ds) : ds ≠ '0' :: r :=
  fun he => h.head (by rw [he, List.head?_cons])

theorem Significant.append {ds es : List Char} (h : Significant ds)
    (he : ∀ c ∈ es, c.isDigit = true) : Significant (ds ++ es) where
  ne_nil := List.append_ne_nil_of_left_ne_nil h.ne_nil es
  digits := List.forall_mem_append.mpr ⟨h.digits, he⟩
  head := by
    rw [head?_append_left h.ne_nil]
    exact h.head

theorem Significant.take {ds : List Char} (h : Significant ds) (hn : n ≠ 0) :
    Significant (ds.take n) where
  ne_nil := by simp [hn, h.ne_nil]
  digits := fun c hc => h.digits c (List.mem_of_mem_take hc)
  head := by
    rw [List.head?_take, if_neg hn]
    exact h.head

end TierRouting.Decimal

namespace TierRouting.Json

open Decimal

variable {w : Written} {n : Nat} {c : Char}

/-- The text reads as a number from end to end. -/
def IsNumeral (text : String) : Prop :=
  isNumber text.toList = true ∧ ∀ c ∈ text.toList, isNumberChar c = true

/-- The parts of a number without sign in the form that JSON admits. -/
structure IsPlain (w : Written) : Prop extends w.IsSpelled where
  unsigned : w.sign = none
  whole_zero : ∀ r, w.whole = '0' :: r → r = []
  fraction_ne : w.fraction ≠ some []

def withSign (negative : Bool) (w : Written) : Written :=
  { w with sign := if negative then some '-' else none }

theorem isNumberChar_of_isDigit (h : c.isDigit = true) : isNumberChar c = true := by
  simp [isNumberChar, h]

theorem isNumberChar_of_isSign (h : isSign c = true) : isNumberChar c = true := by
  simp only [isSign, Bool.or_eq_true, beq_iff_eq] at h
  rcases h with rfl | rfl
  · rfl
  · rfl

theorem isNumberChar_of_mem_chars (h : w.IsSpelled) (hc : c ∈ w.chars) :
    isNumberChar c = true := by
  simp only [Written.chars, List.mem_append, Option.mem_toList] at hc
  rcases hc with hc | hc | hc | hc
  · exact isNumberChar_of_isSign (h.sign c hc)
  · exact isNumberChar_of_isDigit (h.whole c hc)
  · cases hf : w.fraction with
    | none => simp [hf, Written.fractionChars] at hc
    | some digits =>
      rw [hf, Written.fractionChars, List.mem_cons] at hc
      rcases hc with rfl | hc
      · rfl
      · exact isNumberChar_of_isDigit (h.fraction digits hf c hc)
  · cases he : w.exponent with
    | none => simp [he, Written.exponentChars] at hc
    | some e =>
      simp only [he, Written.exponentChars, List.mem_cons, List.mem_append, Option.mem_toList] at hc
      rcases hc with rfl | hc | hc
      · rfl
      · exact isNumberChar_of_isSign (h.exponent_sign e he c hc)
      · exact isNumberChar_of_isDigit (h.exponent e he c hc)

theorem IsPlain.withSign (h : IsPlain w) (negative : Bool) :
    (withSign negative w).IsSpelled where
  sign := by
    cases negative with
    | false => nofun
    | true =>
      rintro c ⟨⟩
      rfl
  whole_ne_nil := h.whole_ne_nil
  whole := h.whole
  fraction := h.fraction
  exponent_sign := h.exponent_sign
  exponent_ne_nil := h.exponent_ne_nil
  exponent := h.exponent

theorem chars_withSign (h : w.sign = none) (negative : Bool) :
    (withSign negative w).chars = (Layout.sign negative).toList ++ w.chars := by
  cases negative with
  | false => simp [withSign, Written.chars, Layout.sign, h]
  | true => simp [withSign, Written.chars, Layout.sign, h]

theorem IsPlain.isNumeral (h : IsPlain w) (negative : Bool) {text : String}
    (ht : text.toList = (Layout.sign negative).toList ++ w.chars) : IsNumeral text := by
  rw [← chars_withSign h.unsigned] at ht
  have hspelled := h.withSign negative
  refine ⟨?_, fun c hc => isNumberChar_of_mem_chars hspelled (ht ▸ hc)⟩
  obtain ⟨c, r, hwhole⟩ := List.exists_cons_of_ne_nil h.whole_ne_nil
  have hzero : c ≠ '0' ∨ r = [] := by
    by_cases hc : c = '0'
    · exact Or.inr (h.whole_zero r (hc ▸ hwhole))
    · exact Or.inl hc
  rw [ht, isNumber, hspelled.ofChars?_chars]
  simp [Json.withSign, hwhole, h.fraction_ne, hzero]

theorem isNumeral_nat (n : Nat) : IsNumeral (toString n) := by
  have hplain : IsPlain ⟨none, Nat.toDigits 10 n, none, none⟩ := {
    sign := nofun
    whole_ne_nil := Nat.toDigits_ne_nil
    whole := digits_toDigits n
    fraction := nofun
    exponent_sign := nofun
    exponent_ne_nil := nofun
    exponent := nofun
    unsigned := rfl
    whole_zero := fun r hr => by
      rcases Nat.eq_zero_or_pos n with rfl | hn
      · exact (List.cons.inj hr).2.symm
      · exact absurd hr (significant_toDigits hn).ne_zero_cons
    fraction_ne := nofun }
  refine hplain.isNumeral false ?_
  simp [Layout.sign, Written.chars, Written.fractionChars, Written.exponentChars]

theorem digitsValue_toDigits (n : Nat) : digitsValue 10 (Nat.toDigits 10 n) = n := by
  have hfold : digitsValue 10 (Nat.toDigits 10 n) = Nat.ofDigitChars 10 (Nat.toDigits 10 n) 0 := by
    refine List.foldl_rel (r := Eq) rfl fun c hc m k hmk => ?_
    rw [hmk, digitsValue.digitValue, if_pos (digits_toDigits n c hc), Nat.mul_comm]
  rw [hfold, Nat.ofDigitChars_ten_toDigits]

/-- A natural number is read back from its digits. -/
theorem nat?_nat (n : Nat) : nat? (nat n) = some n := by
  have hdigits : (Nat.toDigits 10 n).all Char.isDigit = true :=
    List.all_eq_true.mpr (digits_toDigits n)
  simp [nat, nat?, hdigits, Nat.toDigits_ne_nil, digitsValue_toDigits]

/-- An exponent is written with its sign if it is negative. -/
theorem exists_exponent (k : Int) : ∃ (sign : Option Char) (n : Nat),
    (∀ c ∈ sign, isSign c = true) ∧ (toString k).toList = sign.toList ++ Nat.toDigits 10 n := by
  cases k with
  | ofNat n => exact ⟨none, n, nofun, Nat.toList_repr⟩
  | negSucc n =>
    refine ⟨some '-', n + 1, ?_, ?_⟩
    · rintro c ⟨⟩
      rfl
    · have hneg : toString (Int.negSucc n) = "-" ++ (n + 1).repr := rfl
      rw [hneg, String.toList_append, Nat.toList_repr]
      rfl

theorem isPlain_point {whole digits : List Char} (hne : whole ≠ [])
    (hwhole : ∀ c ∈ whole, c.isDigit = true) (hzero : ∀ r, whole = '0' :: r → r = [])
    (hdne : digits ≠ []) (hdigits : ∀ c ∈ digits, c.isDigit = true) :
    IsPlain ⟨none, whole, some digits, none⟩ where
  sign := nofun
  whole_ne_nil := hne
  whole := hwhole
  fraction := by
    rintro ds ⟨⟩
    exact hdigits
  exponent_sign := nofun
  exponent_ne_nil := nofun
  exponent := nofun
  unsigned := rfl
  whole_zero := hzero
  fraction_ne := by simpa using hdne

theorem isPlain_significant_point {whole digits : List Char} (h : Significant whole)
    (hdne : digits ≠ []) (hdigits : ∀ c ∈ digits, c.isDigit = true) :
    IsPlain ⟨none, whole, some digits, none⟩ :=
  isPlain_point h.ne_nil h.digits (fun _ hr => absurd hr h.ne_zero_cons) hdne hdigits

theorem isPlain_zero_point {digits : List Char} (hdne : digits ≠ [])
    (hdigits : ∀ c ∈ digits, c.isDigit = true) : IsPlain ⟨none, ['0'], some digits, none⟩ :=
  isPlain_point (by simp) (by simp) (by simp) hdne hdigits

theorem isPlain_scientific {ds : List Char} {sign : Option Char} (h : Significant ds)
    (hsign : ∀ c ∈ sign, isSign c = true) (n : Nat) :
    IsPlain ⟨none, ds.take 1, if ds.length ≤ 1 then none else some (ds.drop 1),
      some (sign, Nat.toDigits 10 n)⟩ where
  sign := nofun
  whole_ne_nil := (h.take Nat.one_ne_zero).ne_nil
  whole := (h.take Nat.one_ne_zero).digits
  fraction := by
    intro digits hdigits
    split at hdigits
    · contradiction
    · obtain rfl := Option.some.inj hdigits
      exact fun c hc => h.digits c (List.mem_of_mem_drop hc)
  exponent_sign := by
    rintro e ⟨⟩
    exact hsign
  exponent_ne_nil := by
    rintro e ⟨⟩
    exact Nat.toDigits_ne_nil
  exponent := by
    rintro e ⟨⟩
    exact digits_toDigits n
  unsigned := rfl
  whole_zero := fun r hr => absurd hr (h.take Nat.one_ne_zero).ne_zero_cons
  fraction_ne := by
    split
    · simp
    · next hlen =>
      rw [ne_eq, Option.some.injEq, List.drop_eq_nil_iff]
      exact hlen

theorem isDigit_replicate (n : Nat) : ∀ c ∈ List.replicate n '0', c.isDigit = true := by
  intro c hc
  obtain rfl := List.eq_of_mem_replicate hc
  rfl

/-- Each of the four layouts writes parts in the right form. -/
theorem exists_plain_numeral {d : Numeral} (hd : 0 < d.digits) :
    ∃ w, IsPlain w ∧ (layout.numeral d).toList = w.chars := by
  have hsig := significant_toDigits hd
  unfold Layout.numeral
  simp only
  generalize Nat.toDigits 10 d.digits = ds at hsig ⊢
  split
  · split
    · refine ⟨_, isPlain_significant_point (hsig.append (isDigit_replicate d.exponent.toNat))
        (List.cons_ne_nil '0' []) (by simp), ?_⟩
      simp [layout, Written.chars, Written.fractionChars, Written.exponentChars]
    · next hexp =>
      split
      · refine ⟨_, isPlain_zero_point (List.append_ne_nil_of_right_ne_nil _ hsig.ne_nil)
          (List.forall_mem_append.mpr ⟨isDigit_replicate (-(ds.length + d.exponent)).toNat,
            hsig.digits⟩), ?_⟩
        simp [Written.chars, Written.fractionChars, Written.exponentChars]
      · next hscale =>
        -- The scale lies between zero and the number of digits.
        have hpos : (ds.length + d.exponent).toNat ≠ 0 := by omega
        have hlt : (ds.length + d.exponent).toNat < ds.length := by omega
        generalize (ds.length + d.exponent).toNat = n at hpos hlt ⊢
        refine ⟨_, isPlain_significant_point (hsig.take hpos)
          (mt List.drop_eq_nil_iff.mp (Nat.not_le.mpr hlt))
          (fun c hc => hsig.digits c (List.mem_of_mem_drop hc)), ?_⟩
        simp [Written.chars, Written.fractionChars, Written.exponentChars]
  · obtain ⟨sign, n, hsign, hchars⟩ := exists_exponent (ds.length + d.exponent - 1)
    generalize toString (ds.length + d.exponent - 1) = text at hchars ⊢
    refine ⟨_, isPlain_scientific hsig hsign n, ?_⟩
    by_cases hlen : ds.length ≤ 1
    · simp [hlen, hchars, Written.chars, Written.fractionChars, Written.exponentChars]
    · simp [hlen, hchars, Written.chars, Written.fractionChars, Written.exponentChars]

theorem isNumeral_reading {negative : Bool} {x : Magnitude} (hx : 0 < x.mantissa) :
    IsNumeral (layout.reading (.finite negative x)) := by
  obtain ⟨w, hw, hchars⟩ := exists_plain_numeral (x.digits_pos_shortest hx layout.tie)
  refine hw.isNumeral negative ?_
  rw [Layout.reading, String.toList_append, hchars]

theorem isNumeral_zero (negative : Bool) : IsNumeral (layout.reading (.zero negative)) := by
  refine (isPlain_zero_point (List.cons_ne_nil '0' []) (by simp)).isNumeral negative ?_
  simp [Layout.reading, layout, Written.chars, Written.fractionChars, Written.exponentChars]

theorem isNumeral_of_isReal {x : Reading} (h : IsReal x) : IsNumeral (layout.reading x) := by
  cases h with
  | zero negative => exact isNumeral_zero negative
  | finite negative x hx => exact isNumeral_reading hx

end TierRouting.Json
