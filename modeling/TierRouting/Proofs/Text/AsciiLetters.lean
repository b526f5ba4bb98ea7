import Mathlib
import TierRouting.Text.Lowercase

/-! ASCII letters in lower case texts, and the few letters beyond ASCII that they come from. -/
namespace TierRouting.Text

variable {c d : Char} {u v cs : List Char}

theorem toNat_lt_of_isAlpha (h : c.isAlpha = true) : c.toNat < 123 := by
  simp only [Char.isAlpha, Char.isUpper, Char.isLower, ge_iff_le, UInt32.le_iff_toNat_le,
    Bool.or_eq_true, Bool.and_eq_true, decide_eq_true_eq] at h
  have hcode : c.toNat = c.val.toNat := rfl
  have hZ : 'Z'.val.toNat = 90 := rfl
  have hz : 'z'.val.toNat = 122 := rfl
  omega

theorem toLower_eq_self (h : c.isAlpha = false) : c.toLower = c := by
  rw [Char.isAlpha, Bool.or_eq_false_iff] at h
  exact Char.toLower_eq_of_not_isUpper (by simp [h.1])

/-- All runs but that of the Kelvin sign lead to characters beyond ASCII. -/
theorem caseRuns_beyond_ascii : ∀ r ∈ caseRuns,
    (r.first = 0x212a ∧ r.last = 0x212a ∧ r.offset = -8383) ∨
      128 ≤ r.first + r.offset ∧ (r.last + r.offset < 0xd800 ∨
        0xdfff < r.first + r.offset ∧ r.last + r.offset < 0x110000) := by
  decide +kernel

/-- Beyond ASCII, a dotted capital and the Kelvin sign alone have ASCII letters in lower case. -/
theorem ascii_of_mem_lowerChar (h : d ∈ lowerChar c) (hd : d.toNat < 128) :
    (c.toNat < 128 ∧ d = c.toLower) ∨ (c = 'İ' ∧ d = 'i') ∨ (c = '\u212a' ∧ d = 'k') := by
  rw [lowerChar] at h
  split at h
  next hc => exact Or.inl ⟨hc, List.mem_singleton.mp h⟩
  next hc =>
    split at h
    next hdot =>
      rcases List.mem_pair.mp h with rfl | rfl
      · exact Or.inr (Or.inl ⟨hdot, rfl⟩)
      · exact absurd hd (by decide)
    next =>
      split at h
      next r hr =>
        have hholds := List.find?_some hr
        simp only [CaseRun.holds, Bool.and_eq_true, decide_eq_true_eq] at hholds
        rw [List.mem_singleton] at h
        rcases caseRuns_beyond_ascii r (List.mem_of_find?_eq_some hr) with
          ⟨hfirst, hlast, hoffset⟩ | hbeyond
        · have hkelvin : c = '\u212a' := by
            apply Char.toNat_inj.mp
            have : ('\u212a' : Char).toNat = 0x212a := rfl
            omega
          subst hkelvin
          rw [hoffset] at h
          exact Or.inr (Or.inr ⟨rfl, h⟩)
        · have hvalid : ((c.toNat : Int) + r.offset).toNat.isValidChar := by
            unfold Nat.isValidChar
            omega
          rw [h, Char.toNat_ofNat, if_pos hvalid] at hd
          omega
      next =>
        rw [List.mem_singleton.mp h] at hd
        omega

theorem exists_lowerChar_of_mem_lowercase (h : d ∈ lowercase cs) :
    d = 'ς' ∨ d = 'σ' ∨ ∃ c ∈ cs, d ∈ lowerChar c := by
  have hafter : ∀ before, d ∈ lowerAfter before cs →
      d = 'ς' ∨ d = 'σ' ∨ ∃ c ∈ cs, d ∈ lowerChar c := by
    clear h
    induction cs with
    | nil => simp [lowerAfter]
    | cons c r ih =>
      intro before h
      rcases List.mem_append.mp h with h | h
      · split at h
        · have hsigma := List.mem_singleton.mp h
          split at hsigma
          · exact Or.inl hsigma
          · exact Or.inr (Or.inl hsigma)
        · exact Or.inr (Or.inr ⟨c, List.mem_cons_self, h⟩)
      · rcases ih (c :: before) h with hfinal | hsigma | ⟨e, he, hlower⟩
        · exact Or.inl hfinal
        · exact Or.inr (Or.inl hsigma)
        · exact Or.inr (Or.inr ⟨e, List.mem_cons_of_mem c he, hlower⟩)
  exact hafter [] h

theorem ascii_of_mem_lowercase (h : d ∈ lowercase cs) (hd : d.toNat < 128) :
    ∃ c ∈ cs, (c.toNat < 128 ∧ d = c.toLower) ∨ (c = 'İ' ∧ d = 'i') ∨ (c = '\u212a' ∧ d = 'k') := by
  rcases exists_lowerChar_of_mem_lowercase h with rfl | rfl | ⟨c, hc, hlower⟩
  · exact absurd hd (by decide)
  · exact absurd hd (by decide)
  · exact ⟨c, hc, ascii_of_mem_lowerChar hlower hd⟩

/-- Signs and digits of ASCII in a lower case text stand there in the text itself. -/
theorem mem_of_mem_lowercase (h : d ∈ lowercase cs) (hd : d.toNat < 128)
    (hsign : d.isAlpha = false) : d ∈ cs := by
  obtain ⟨c, hc, ⟨-, rfl⟩ | ⟨-, rfl⟩ | ⟨-, rfl⟩⟩ := ascii_of_mem_lowercase h hd
  · rw [Char.isAlpha_toLower_eq_isAlpha] at hsign
    rwa [toLower_eq_self hsign]
  · exact absurd hsign (by decide)
  · exact absurd hsign (by decide)

/-- Somewhere in the text stands an ASCII letter. -/
def HasLetter (u : List Char) : Prop := ∃ c ∈ u, c.isAlpha = true

instance : DecidablePred HasLetter :=
  fun u => decidable_of_iff (u.any Char.isAlpha = true) List.any_eq_true

theorem HasLetter.mono (h : HasLetter u) (hv : u <:+: v) : HasLetter v := by
  obtain ⟨c, hc, hletter⟩ := h
  exact ⟨c, hv.subset hc, hletter⟩

theorem hasLetter_of_lowercase (h : HasLetter (lowercase cs)) :
    ∃ c ∈ cs, c.isAlpha = true ∨ c = 'İ' ∨ c = '\u212a' := by
  obtain ⟨d, hd, hletter⟩ := h
  have hascii : d.toNat < 128 := by
    have := toNat_lt_of_isAlpha hletter
    omega
  obtain ⟨c, hc, ⟨-, rfl⟩ | ⟨hdot, -⟩ | ⟨hkelvin, -⟩⟩ := ascii_of_mem_lowercase hd hascii
  · rw [Char.isAlpha_toLower_eq_isAlpha] at hletter
    exact ⟨c, hc, Or.inl hletter⟩
  · exact ⟨c, hc, Or.inr (Or.inl hdot)⟩
  · exact ⟨c, hc, Or.inr (Or.inr hkelvin)⟩

end TierRouting.Text
