import TierRouting.Json.Quoted

/-! A quoted string is read back whatever follows it, and is written without control characters. -/
namespace TierRouting.Json

variable {c d : Char} {s rest : List Char}

/-- The forms in which a character stands between quotes. -/
inductive Escaped (c : Char) : List Char → Prop
  | letter (e : Char) (he : e ≠ 'u') (hprint : 32 ≤ e.toNat) (hc : letterEscape? e = some c) :
      Escaped c ['\\', e]
  | number (hc : c.toNat < 32) : Escaped c ('\\' :: 'u' :: '0' :: '0' :: hexPair c.toNat)
  | plain (hprint : 32 ≤ c.toNat) (hquote : c ≠ '"') (hslash : c ≠ '\\') : Escaped c [c]

theorem escaped_escapeChar (c : Char) : Escaped c (escapeChar c) := by
  unfold escapeChar
  split
  case h_8 hquote hslash _ _ _ _ _ =>
    split
    case isTrue hc => exact .number hc
    case isFalse hc => exact .plain (Nat.not_lt.mp hc) hquote hslash
  all_goals exact .letter _ (by decide) (by decide) rfl

theorem hexValue?_hexPair : ∀ n < 32, hexValue? ('0' :: '0' :: hexPair n) = some n := by decide

theorem printable_hexPair (n : Nat) : ∀ d ∈ hexPair n, 32 ≤ d.toNat := by
  have hdigits : hexDigits.all (32 ≤ ·.toNat) = true := by decide
  have hdigit (i : Nat) : 32 ≤ (hexDigits[i]?.getD '0').toNat := by
    cases hi : hexDigits[i]? with
    | none => decide
    | some d => exact of_decide_eq_true (List.all_eq_true.mp hdigits d (List.mem_of_getElem? hi))
  simp [hexPair, hdigit]

theorem printable_of_escaped {w : List Char} (h : Escaped c w) (hd : d ∈ w) : 32 ≤ d.toNat := by
  cases h with
  | letter e he hprint hc =>
    rcases List.mem_cons.mp hd with rfl | hd
    · decide
    · rwa [List.mem_singleton.mp hd]
  | number hc =>
    simp only [List.mem_cons] at hd
    rcases hd with rfl | rfl | rfl | rfl | hd
    · decide
    · decide
    · decide
    · decide
    · exact printable_hexPair c.toNat d hd
  | plain hprint hquote hslash => rwa [List.mem_singleton.mp hd]

theorem printable_quoted (hd : d ∈ quoted s) : 32 ≤ d.toNat := by
  simp only [quoted, List.mem_cons, List.mem_append, List.mem_flatMap, List.not_mem_nil,
    or_false] at hd
  rcases hd with (rfl | ⟨c, -, hd⟩) | rfl
  · decide
  · exact printable_of_escaped (escaped_escapeChar c) hd
  · decide

theorem readQuoted?_escaped {w : List Char} (h : Escaped c w) (rest : List Char) :
    readQuoted? (w ++ rest) = (readQuoted? rest).map fun (s, r) => (c :: s, r) := by
  cases h with
  | letter e he hprint hc =>
    rw [List.cons_append, List.cons_append, List.nil_append, readQuoted?]
    · rw [hc]
      cases readQuoted? rest with
      | none => rfl
      | some p => rfl
    · rintro a b c d r rfl
      exact fun _ => he rfl
  | number hc =>
    have hn := hexValue?_hexPair c.toNat hc
    have hhigh : isHighSurrogate c.toNat = false := by
      simp only [isHighSurrogate, Bool.and_eq_false_iff, decide_eq_false_iff_not]
      omega
    have hlow : isLowSurrogate c.toNat = false := by
      simp only [isLowSurrogate, Bool.and_eq_false_iff, decide_eq_false_iff_not]
      omega
    simp only [hexPair, List.cons_append, List.nil_append] at hn ⊢
    rw [readQuoted?, hn]
    simp only [Option.bind_eq_bind, Option.bind_some, hhigh, hlow, Bool.false_eq_true, if_false,
      Char.ofNat_toNat]
    cases readQuoted? rest with
    | none => rfl
    | some p => rfl
  | plain hprint hquote hslash =>
    rw [List.cons_append, List.nil_append, readQuoted?]
    · have hc : ¬ (c.toNat < 32 || c == '\\') = true := by
        simp only [Bool.or_eq_true, decide_eq_true_eq, beq_iff_eq]
        exact not_or.mpr ⟨Nat.not_lt.mpr hprint, hslash⟩
      rw [if_neg hc]
      cases readQuoted? rest with
      | none => rfl
      | some p => rfl
    · exact hquote
    · exact fun _ _ _ _ _ h => absurd h hslash
    · exact fun _ _ h => absurd h hslash

theorem readQuoted?_flatMap (s rest : List Char) :
    readQuoted? (s.flatMap escapeChar ++ '"' :: rest) = some (s, rest) := by
  induction s with
  | nil => rfl
  | cons c s ih =>
    rw [List.flatMap_cons, List.append_assoc, readQuoted?_escaped (escaped_escapeChar c), ih]
    rfl

end TierRouting.Json
