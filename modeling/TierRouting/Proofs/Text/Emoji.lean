import Mathlib.Data.List.Basic
import TierRouting.Proofs.Text.Lowercasing
import TierRouting.Proofs.Text.Trimming

/-! Emoji, the texts made of them, and the six emoji that count as letters. -/
namespace TierRouting.Text

/-- The code points beyond ASCII with the property Emoji, as of Unicode 17. -/
def emojiRanges : List (Nat × Nat) := [
  (0xa9, 0xa9), (0xae, 0xae), (0x203c, 0x203c), (0x2049, 0x2049), (0x2122, 0x2122),
  (0x2139, 0x2139), (0x2194, 0x2199), (0x21a9, 0x21aa), (0x231a, 0x231b), (0x2328, 0x2328),
  (0x23cf, 0x23cf), (0x23e9, 0x23f3), (0x23f8, 0x23fa), (0x24c2, 0x24c2), (0x25aa, 0x25ab),
  (0x25b6, 0x25b6), (0x25c0, 0x25c0), (0x25fb, 0x25fe), (0x2600, 0x2604), (0x260e, 0x260e),
  (0x2611, 0x2611), (0x2614, 0x2615), (0x2618, 0x2618), (0x261d, 0x261d), (0x2620, 0x2620),
  (0x2622, 0x2623), (0x2626, 0x2626), (0x262a, 0x262a), (0x262e, 0x262f), (0x2638, 0x263a),
  (0x2640, 0x2640), (0x2642, 0x2642), (0x2648, 0x2653), (0x265f, 0x2660), (0x2663, 0x2663),
  (0x2665, 0x2666), (0x2668, 0x2668), (0x267b, 0x267b), (0x267e, 0x267f), (0x2692, 0x2697),
  (0x2699, 0x2699), (0x269b, 0x269c), (0x26a0, 0x26a1), (0x26a7, 0x26a7), (0x26aa, 0x26ab),
  (0x26b0, 0x26b1), (0x26bd, 0x26be), (0x26c4, 0x26c5), (0x26c8, 0x26c8), (0x26ce, 0x26cf),
  (0x26d1, 0x26d1), (0x26d3, 0x26d4), (0x26e9, 0x26ea), (0x26f0, 0x26f5), (0x26f7, 0x26fa),
  (0x26fd, 0x26fd), (0x2702, 0x2702), (0x2705, 0x2705), (0x2708, 0x270d), (0x270f, 0x270f),
  (0x2712, 0x2712), (0x2714, 0x2714), (0x2716, 0x2716), (0x271d, 0x271d), (0x2721, 0x2721),
  (0x2728, 0x2728), (0x2733, 0x2734), (0x2744, 0x2744), (0x2747, 0x2747), (0x274c, 0x274c),
  (0x274e, 0x274e), (0x2753, 0x2755), (0x2757, 0x2757), (0x2763, 0x2764), (0x2795, 0x2797),
  (0x27a1, 0x27a1), (0x27b0, 0x27b0), (0x27bf, 0x27bf), (0x2934, 0x2935), (0x2b05, 0x2b07),
  (0x2b1b, 0x2b1c), (0x2b50, 0x2b50), (0x2b55, 0x2b55), (0x3030, 0x3030), (0x303d, 0x303d),
  (0x3297, 0x3297), (0x3299, 0x3299), (0x1f004, 0x1f004), (0x1f0cf, 0x1f0cf), (0x1f170, 0x1f171),
  (0x1f17e, 0x1f17f), (0x1f18e, 0x1f18e), (0x1f191, 0x1f19a), (0x1f1e6, 0x1f1ff),
  (0x1f201, 0x1f202), (0x1f21a, 0x1f21a), (0x1f22f, 0x1f22f), (0x1f232, 0x1f23a),
  (0x1f250, 0x1f251), (0x1f300, 0x1f321), (0x1f324, 0x1f393), (0x1f396, 0x1f397),
  (0x1f399, 0x1f39b), (0x1f39e, 0x1f3f0), (0x1f3f3, 0x1f3f5), (0x1f3f7, 0x1f4fd),
  (0x1f4ff, 0x1f53d), (0x1f549, 0x1f54e), (0x1f550, 0x1f567), (0x1f56f, 0x1f570),
  (0x1f573, 0x1f57a), (0x1f587, 0x1f587), (0x1f58a, 0x1f58d), (0x1f590, 0x1f590),
  (0x1f595, 0x1f596), (0x1f5a4, 0x1f5a5), (0x1f5a8, 0x1f5a8), (0x1f5b1, 0x1f5b2),
  (0x1f5bc, 0x1f5bc), (0x1f5c2, 0x1f5c4), (0x1f5d1, 0x1f5d3), (0x1f5dc, 0x1f5de),
  (0x1f5e1, 0x1f5e1), (0x1f5e3, 0x1f5e3), (0x1f5e8, 0x1f5e8), (0x1f5ef, 0x1f5ef),
  (0x1f5f3, 0x1f5f3), (0x1f5fa, 0x1f64f), (0x1f680, 0x1f6c5), (0x1f6cb, 0x1f6d2),
  (0x1f6d5, 0x1f6d8), (0x1f6dc, 0x1f6e5), (0x1f6e9, 0x1f6e9), (0x1f6eb, 0x1f6ec),
  (0x1f6f0, 0x1f6f0), (0x1f6f3, 0x1f6fc), (0x1f7e0, 0x1f7eb), (0x1f7f0, 0x1f7f0),
  (0x1f90c, 0x1f93a), (0x1f93c, 0x1f945), (0x1f947, 0x1f9ff), (0x1fa70, 0x1fa7c),
  (0x1fa80, 0x1fa8a), (0x1fa8e, 0x1fac6), (0x1fac8, 0x1fac8), (0x1facd, 0x1fadc),
  (0x1fadf, 0x1faea), (0x1faef, 0x1faf8)]

def IsEmoji (c : Char) : Prop := ∃ r ∈ emojiRanges, r.1 ≤ c.toNat ∧ c.toNat ≤ r.2

instance : DecidablePred IsEmoji := fun c =>
  decidable_of_iff (emojiRanges.any fun r => r.1 ≤ c.toNat ∧ c.toNat ≤ r.2) (by simp [IsEmoji])

/-- The modifiers for the colour of the skin. -/
def IsSkinTone (c : Char) : Prop := 0x1f3fb ≤ c.toNat ∧ c.toNat ≤ 0x1f3ff

instance : DecidablePred IsSkinTone := fun _ => inferInstanceAs (Decidable (_ ∧ _))

/-- What a keycap may show. -/
def keycapBases : List Char := "0123456789#*".toList

/-- An emoji with its selectors and modifiers, and further emoji joined to it. -/
inductive IsPictograph : List Char → Prop
  | plain {c : Char} (hc : IsEmoji c) : IsPictograph [c]
  | selected {u : List Char} (hu : IsPictograph u) : IsPictograph (u ++ ['\ufe0f'])
  | toned {u : List Char} {c : Char} (hu : IsPictograph u) (hc : IsSkinTone c) :
      IsPictograph (u ++ [c])
  | joined {u : List Char} {c : Char} (hu : IsPictograph u) (hc : IsEmoji c) :
      IsPictograph (u ++ ['\u200d', c])

inductive IsGlyph : List Char → Prop
  | pictograph {g : List Char} (hg : IsPictograph g) : IsGlyph g
  | keycap {c : Char} (hc : c ∈ keycapBases) : IsGlyph [c, '\u20e3']
  | selectedKeycap {c : Char} (hc : c ∈ keycapBases) : IsGlyph [c, '\ufe0f', '\u20e3']

/-- One glyph or more, with nothing but blanks between them. -/
inductive IsEmojiText : List Char → Prop
  | glyph {g : List Char} (hg : IsGlyph g) : IsEmojiText g
  | more {t b g : List Char} (ht : IsEmojiText t) (hb : allBlank b = true) (hg : IsGlyph g) :
      IsEmojiText (t ++ b ++ g)

/-- Emoji drawn from letters, which are letters to the tables. -/
def letterEmoji : List Char := ['ℹ', 'Ⓜ', '🅰', '🅱', '🅾', '🅿']

variable {c : Char} {u b g t : List Char} {table : RangeTable} {r s : Nat × Nat}
  {n steps lo hi : Nat}

/-! ### What the tables say of emoji -/

/-- Whatever the halving finds stands in the table. -/
theorem RangeTable.exists_of_search (h : table.search n steps lo hi = true) :
    ∃ r ∈ table.toList, r.1 ≤ n ∧ n ≤ r.2 := by
  induction steps generalizing lo hi with
  | zero => simp [search] at h
  | succ steps ih =>
    rw [search] at h
    split at h
    next =>
      dsimp only at h
      split at h
      next => contradiction
      next first last hmid =>
        split at h
        · exact ih h
        · split at h
          · exact ih h
          · exact ⟨(first, last), Array.mem_toList_iff.mpr (Array.mem_of_getElem? hmid), by omega,
              by omega⟩
    next => contradiction

theorem RangeTable.exists_of_contains (h : table.contains c = true) :
    ∃ r ∈ table.toList, r.1 ≤ c.toNat ∧ c.toNat ≤ r.2 := exists_of_search h

/-- The ranges of those emoji that are letters. -/
def letterEmojiRanges : List (Nat × Nat) :=
  [(0x2139, 0x2139), (0x24c2, 0x24c2), (0x1f170, 0x1f171), (0x1f17e, 0x1f17f)]

/-- The stretches of the code space where all emoji stand. -/
def emojiBlocks : List (Nat × Nat) := [(0xa9, 0xae), (0x203c, 0x3299), (0x1f004, 0x1faf8)]

/-- One range ends ahead of the other. -/
def apart (r s : Nat × Nat) : Bool := r.2.blt s.1 || s.2.blt r.1

theorem apart_eq_false (hr : r.1 ≤ n ∧ n ≤ r.2) (hs : s.1 ≤ n ∧ n ≤ s.2) : apart r s = false := by
  refine Bool.eq_false_iff.mpr fun h => ?_
  rw [apart, Bool.or_eq_true, Nat.blt_eq, Nat.blt_eq] at h
  omega

theorem mem_letterEmoji (hr : r ∈ letterEmojiRanges) (hc : r.1 ≤ c.toNat ∧ c.toNat ≤ r.2) :
    c ∈ letterEmoji := by
  have hcodes : letterEmoji.map Char.toNat =
      [0x2139, 0x24c2, 0x1f170, 0x1f171, 0x1f17e, 0x1f17f] := by decide
  have hcode : c.toNat ∈ letterEmoji.map Char.toNat := by
    simp only [letterEmojiRanges, List.mem_cons, List.not_mem_nil, or_false] at hr
    simp only [hcodes, List.mem_cons, List.not_mem_nil, or_false]
    rcases hr with rfl | rfl | rfl | rfl <;> omega
  obtain ⟨d, hd, hcd⟩ := List.mem_map.mp hcode
  rwa [← Char.toNat_inj.mp hcd]

/-- No entry of the table meets an emoji that is no letter. -/
def RangeTable.sparesEmoji (table : RangeTable) : Bool :=
  table.toList.all fun s => emojiBlocks.all (apart s) ||
    emojiRanges.all fun r => letterEmojiRanges.contains r || apart s r

theorem sparesEmoji_tables : alphabetic.sparesEmoji = true ∧ decimalDigit.sparesEmoji = true ∧
    otherNumber.sparesEmoji = true := by
  decide +kernel

theorem emojiRanges_within : ∀ r ∈ emojiRanges, ∃ b ∈ emojiBlocks, b.1 ≤ r.1 ∧ r.2 ≤ b.2 := by
  decide +kernel

theorem emojiRanges_beside : ∀ n ∈ 0x130 :: 0x212a :: blankCodes, ∀ r ∈ emojiRanges,
    n < r.1 ∨ r.2 < n := by
  decide +kernel

theorem IsEmoji.exists_block (h : IsEmoji c) :
    ∃ b ∈ emojiBlocks, b.1 ≤ c.toNat ∧ c.toNat ≤ b.2 := by
  obtain ⟨r, hr, hfirst, hlast⟩ := h
  obtain ⟨b, hb, hlow, hhigh⟩ := emojiRanges_within r hr
  exact ⟨b, hb, Nat.le_trans hlow hfirst, Nat.le_trans hlast hhigh⟩

theorem IsEmoji.le_toNat (h : IsEmoji c) : 128 ≤ c.toNat := by
  obtain ⟨b, hb, hfirst, -⟩ := h.exists_block
  have hbeyond : ∀ b ∈ emojiBlocks, 128 ≤ b.1 := by decide
  exact Nat.le_trans (hbeyond b hb) hfirst

theorem IsEmoji.toNat_not_mem (h : IsEmoji c) : c.toNat ∉ 0x130 :: 0x212a :: blankCodes := by
  intro hmem
  obtain ⟨r, hr, hfirst, hlast⟩ := h
  have := emojiRanges_beside _ hmem r hr
  omega

theorem IsEmoji.isBlank_eq_false (h : IsEmoji c) : isBlank c = false := by
  refine Bool.eq_false_iff.mpr fun hblank => ?_
  exact h.toNat_not_mem (.tail _ (.tail _ (toNat_mem_blankCodes hblank)))

theorem RangeTable.contains_emoji_eq_false (htable : table.sparesEmoji = true) (h : IsEmoji c)
    (hletter : c ∉ letterEmoji) : table.contains c = false := by
  refine Bool.eq_false_iff.mpr fun hfound => ?_
  obtain ⟨s, hs, hcode⟩ := exists_of_contains hfound
  rcases Bool.or_eq_true_iff.mp (List.all_eq_true.mp htable s hs) with hblocks | hranges
  · obtain ⟨b, hb, hwithin⟩ := h.exists_block
    have hapart := List.all_eq_true.mp hblocks b hb
    rw [apart_eq_false hcode hwithin] at hapart
    contradiction
  · obtain ⟨r, hr, hwithin⟩ := h
    rcases Bool.or_eq_true_iff.mp (List.all_eq_true.mp hranges r hr) with hmem | hapart
    · exact hletter (mem_letterEmoji (List.contains_iff_mem.mp hmem) hwithin)
    · rw [apart_eq_false hcode hwithin] at hapart
      contradiction

theorem isAlphanumeric_of_mem_letterEmoji (h : c ∈ letterEmoji) : isAlphanumeric c = true := by
  have hall : letterEmoji.all isAlphanumeric = true := by decide +kernel
  exact List.all_eq_true.mp hall c h

/-- Emoji are neither letters nor digits, but for six of them. -/
theorem IsEmoji.isAlphanumeric_iff (h : IsEmoji c) :
    isAlphanumeric c = true ↔ c ∈ letterEmoji := by
  refine ⟨fun halnum => ?_, isAlphanumeric_of_mem_letterEmoji⟩
  by_contra hletter
  obtain ⟨halphabetic, hdecimal, hother⟩ := sparesEmoji_tables
  have hbeyond : ¬ c.toNat < 128 := Nat.not_lt.mpr h.le_toNat
  rw [isAlphanumeric, if_neg hbeyond,
    RangeTable.contains_emoji_eq_false halphabetic h hletter,
    RangeTable.contains_emoji_eq_false hdecimal h hletter,
    RangeTable.contains_emoji_eq_false hother h hletter] at halnum
  contradiction

/-! ### What glyphs and texts of them are made of -/

/-- The characters that change, join and enclose others. -/
def glyphMarks : List Char := ['\ufe0f', '\u200d', '\u20e3']

theorem IsSkinTone.isEmoji (h : IsSkinTone c) : IsEmoji c := by
  have hrange : ∃ r ∈ emojiRanges, r.1 ≤ 0x1f3fb ∧ 0x1f3ff ≤ r.2 := by decide
  obtain ⟨r, hr, hfirst, hlast⟩ := hrange
  exact ⟨r, hr, Nat.le_trans hfirst h.1, Nat.le_trans h.2 hlast⟩

theorem IsPictograph.forall_mem (h : IsPictograph u) :
    ∀ c ∈ u, IsEmoji c ∨ c ∈ glyphMarks := by
  induction h with
  | plain hc => simp [hc]
  | selected _ ih =>
    rw [List.forall_mem_append]
    exact ⟨ih, by simp [glyphMarks]⟩
  | toned _ hc ih =>
    rw [List.forall_mem_append]
    exact ⟨ih, by simp [hc.isEmoji]⟩
  | joined _ hc ih =>
    rw [List.forall_mem_append]
    exact ⟨ih, by simp [hc, glyphMarks]⟩

theorem IsPictograph.exists_isEmoji (h : IsPictograph u) : ∃ c ∈ u, IsEmoji c := by
  induction h with
  | plain hc => exact ⟨_, List.mem_singleton_self _, hc⟩
  | selected _ ih | toned _ _ ih | joined _ _ ih =>
    obtain ⟨c, hc, hemoji⟩ := ih
    exact ⟨c, List.mem_append_left _ hc, hemoji⟩

theorem IsGlyph.forall_mem (h : IsGlyph g) :
    ∀ c ∈ g, IsEmoji c ∨ c ∈ glyphMarks ++ keycapBases := by
  cases h with
  | pictograph hg =>
    intro c hc
    exact (hg.forall_mem c hc).imp_right (List.mem_append_left keycapBases)
  | keycap hc | selectedKeycap hc => simp [glyphMarks, hc]

theorem IsGlyph.beyondAscii (h : IsGlyph g) : ∃ c ∈ g, 127 < c.toNat := by
  cases h with
  | pictograph hg =>
    obtain ⟨c, hc, hemoji⟩ := hg.exists_isEmoji
    exact ⟨c, hc, hemoji.le_toNat⟩
  | keycap => exact ⟨'\u20e3', by simp, by decide⟩
  | selectedKeycap => exact ⟨'\u20e3', by simp, by decide⟩

theorem IsGlyph.isBlank_eq_false (h : IsGlyph g) : ∀ c ∈ g, isBlank c = false := by
  have hparts : (glyphMarks ++ keycapBases).any isBlank = false := by decide
  intro c hc
  rcases h.forall_mem c hc with hemoji | hpart
  · exact hemoji.isBlank_eq_false
  · exact Bool.eq_false_iff.mpr (List.any_eq_false.mp hparts c hpart)

theorem IsGlyph.isTrimmed (h : IsGlyph g) : IsTrimmed g where
  head c hc := h.isBlank_eq_false c (List.mem_of_mem_head? hc)
  last c hc := h.isBlank_eq_false c (List.mem_of_mem_getLast? hc)

theorem IsGlyph.ne_nil (h : IsGlyph g) : g ≠ [] := by
  obtain ⟨c, hc, -⟩ := h.beyondAscii
  exact List.ne_nil_of_mem hc

theorem IsEmojiText.forall_mem (h : IsEmojiText t) :
    ∀ c ∈ t, IsEmoji c ∨ c ∈ glyphMarks ++ keycapBases ∨ isBlank c = true := by
  induction h with
  | glyph hg => exact fun c hc => (hg.forall_mem c hc).imp_right Or.inl
  | more _ hb hg ih =>
    rw [List.forall_mem_append, List.forall_mem_append]
    exact ⟨⟨ih, fun c hc => Or.inr (Or.inr (List.all_eq_true.mp hb c hc))⟩,
      fun c hc => (hg.forall_mem c hc).imp_right Or.inl⟩

theorem IsEmojiText.beyondAscii (h : IsEmojiText t) : ∃ c ∈ t, 127 < c.toNat := by
  cases h with
  | glyph hg => exact hg.beyondAscii
  | more _ _ hg =>
    obtain ⟨c, hc, hcode⟩ := hg.beyondAscii
    exact ⟨c, List.mem_append_right _ hc, hcode⟩

theorem IsEmojiText.ne_nil (h : IsEmojiText t) : t ≠ [] := by
  obtain ⟨c, hc, -⟩ := h.beyondAscii
  exact List.ne_nil_of_mem hc

theorem IsEmojiText.isTrimmed (h : IsEmojiText t) : IsTrimmed t := by
  induction h with
  | glyph hg => exact hg.isTrimmed
  | @more t b g ht _ hg ih =>
    constructor
    · rw [List.append_assoc, List.head?_append_of_ne_nil _ ht.ne_nil]
      exact ih.head
    · rw [List.getLast?_append_of_ne_nil _ hg.ne_nil]
      exact hg.isTrimmed.last

end TierRouting.Text
