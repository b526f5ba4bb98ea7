import TierRouting.Proofs.Signal.Symbols
import TierRouting.Proofs.Text.Emoji

/-! Messages of emoji: trivial ones, and those whose emoji are taken for letters. -/
namespace TierRouting

open Phrases Text

variable {f : Features} {m : String} {c d : Char} {u v g t cs : List Char}

/-! ### Messages without words -/

/-- What besides ASCII letters can make a phrase: two letters that are ASCII in lower case, and two
signs. -/
def wordSigns : List Char := ['İ', '\u212a', '?', '\x60']

/-- Nothing of which the rules make their phrases stands in the text, not even in lower case. -/
def IsWordless (cs : List Char) : Prop := ∀ c ∈ cs, c.isAlpha = false ∧ c ∉ wordSigns

theorem IsWordless.not_hasLetter (h : IsWordless cs) : ¬ HasLetter (lowercase cs) := by
  intro hletter
  obtain ⟨c, hc, hfrom⟩ := hasLetter_of_lowercase hletter
  obtain ⟨halpha, hsign⟩ := h c hc
  rcases hfrom with hc | rfl | rfl
  · rw [hc] at halpha
    contradiction
  · exact hsign (.head _)
  · exact hsign (.tail _ (.head _))

theorem IsWordless.not_mem (h : IsWordless cs) (hc : c ∈ ['?', '\x60']) : c ∉ cs :=
  fun hmem => (h c hmem).2 (.tail _ (.tail _ hc))

theorem IsWordless.not_telling (h : IsWordless cs) : ¬ Telling (lowercase cs) := by
  have hmarkers : ∀ w ∈ markers, HasLetter w ∨ w = ['?'] ∨ w = ['\x60'] := by decide
  have hsign : ∀ c ∈ ['?', '\x60'], c ∉ lowercase cs := by
    intro c hc hmem
    have hcode : c.toNat < 128 ∧ c.isAlpha = false := by
      rcases List.mem_pair.mp hc with rfl | rfl <;> decide
    exact h.not_mem hc (mem_of_mem_lowercase hmem hcode.1 hcode.2)
  rintro ⟨w, hw, hwithin⟩
  rcases hmarkers w hw with hletter | rfl | rfl
  · exact h.not_hasLetter (hletter.mono hwithin)
  · exact hsign '?' (.head _) (hwithin.subset (.head _))
  · exact hsign '\x60' (.tail _ (.head _)) (hwithin.subset (.head _))

theorem Stage.decides_of_firstMatch {s : Stage} {v : Verdict} (hs : s.decision = .firstMatch v) :
    s.decides f = (s.evaluate f 0).any (·.isMatch) := by
  cases hany : (s.evaluate f 0).any (·.isMatch) <;> simp [decides, verdict?, hs, hany]

theorem Stage.not_decides_explicitModel (h : ¬ HasLetter f.lower) :
    explicitModel.decides f = false := by
  rw [decides_of_firstMatch rfl, List.any_eq_false]
  intro x hx
  simp [unmatched_of_seeksLetter seeksLetter_explicitModel h x hx]

theorem Stage.decides_trivialPhrase_eq (h : ¬ HasLetter f.lower) :
    trivialPhrase.decides f = isEmojiOnly f.text := by
  have hphrases : ((trivialPhrase.rules.take 4).map (·.signal f 0)).any (·.isMatch) = false := by
    rw [List.any_eq_false]
    intro x hx
    simp [unmatched_of_seeksLetter seeksLetter_smallTalk h x hx]
  rw [decides_of_firstMatch rfl, evaluate_trivialPhrase, List.any_append, hphrases]
  simp

/-- Without words a message is trivial if it is empty, of symbols or short, and asks for little
otherwise. -/
theorem intent_of_wordless (h : IsWordless (trim m.toList)) :
    ((classify m).intent = .trivial ↔
      trim m.toList = [] ∨ isEmojiOnly (trim m.toList) = true ∨ (trim m.toList).length < 10) ∧
    (classify m).intent ∈ [Intent.trivial, .simple, .standard] := by
  obtain ⟨later, hlater, hintent⟩ := intent_classify m
  have hletter : ¬ HasLetter (Features.ofMessage m).lower := h.not_hasLetter
  have hquestions : (Features.ofMessage m).questionMarks = 0 :=
    List.count_eq_zero.mpr (h.not_mem (.head _))
  have hblank : Stage.blankMessage.decides (.ofMessage m) = true ↔ trim m.toList = [] :=
    Stage.decides_blankMessage_iff
  have hshort : Stage.shortMessage.decides (.ofMessage m) = true ↔ (trim m.toList).length < 10 := by
    rw [Stage.decides_shortMessage_iff, hquestions]
    exact and_iff_left rfl
  have hphrase : Stage.trivialPhrase.decides (.ofMessage m) = isEmojiOnly (trim m.toList) :=
    Stage.decides_trivialPhrase_eq hletter
  have hexplicit := Stage.not_decides_explicitModel hletter
  have hflagship : Stage.flagship.decides (.ofMessage m) = false :=
    Bool.eq_false_iff.mpr fun hdecides => h.not_telling (telling_of_flagship hdecides)
  have hcomplex : Stage.complex.decides (.ofMessage m) = false :=
    Bool.eq_false_iff.mpr fun hdecides => h.not_telling (telling_of_complex m hdecides)
  rw [List.mem_pair] at hlater
  rw [hintent, ← hblank, ← hphrase, ← hshort, hexplicit, hflagship, hcomplex]
  split_ifs <;> rcases hlater with rfl | rfl <;> simp_all

/-! ### The scan for emoji -/

/-- Whatever follows the text, the scan is stopped in it by the emoji that are letters alone. -/
def ScansAsEmoji (u : List Char) : Prop :=
  ∀ r, onlySymbols (u ++ r) = true ↔ (∀ c ∈ u, c ∉ letterEmoji) ∧ onlySymbols r = true

theorem ScansAsEmoji.append (hu : ScansAsEmoji u) (hv : ScansAsEmoji v) : ScansAsEmoji (u ++ v) := by
  intro r
  rw [List.append_assoc, hu, hv, List.forall_mem_append, and_assoc]

theorem isKeycapBase_eq_false (h : 127 < c.toNat) : isKeycapBase c = false := by
  refine Bool.eq_false_iff.mpr fun hbase => ?_
  simp only [isKeycapBase, Bool.or_eq_true, Bool.and_eq_true, decide_eq_true_eq, beq_iff_eq,
    Char.le_def, UInt32.le_iff_toNat_le] at hbase
  have hcode : c.toNat = c.val.toNat := rfl
  have hdigit : '9'.val.toNat = 57 := rfl
  rcases hbase with (⟨-, hlast⟩ | rfl) | rfl
  · omega
  · exact absurd h (by decide)
  · exact absurd h (by decide)

/-- Emoji and what is no letter, outside keycaps. -/
structure IsOffKeycap (c : Char) : Prop where
  not_base : isKeycapBase c = false
  emoji_or_symbol : IsEmoji c ∨ isAlphanumeric c = false

theorem IsOffKeycap.isAlphanumeric_iff (h : IsOffKeycap c) :
    isAlphanumeric c = true ↔ c ∈ letterEmoji := by
  rcases h.emoji_or_symbol with hemoji | hother
  · exact hemoji.isAlphanumeric_iff
  · constructor
    · intro halnum
      rw [hother] at halnum
      contradiction
    · exact isAlphanumeric_of_mem_letterEmoji

theorem scansAsEmoji_of_forall (h : ∀ c ∈ u, IsOffKeycap c) : ScansAsEmoji u := by
  induction u with
  | nil => simp [ScansAsEmoji]
  | cons c u ih =>
    obtain ⟨hc, hrest⟩ := List.forall_mem_cons.mp h
    have hstep : (!isAlphanumeric c) = true ↔ c ∉ letterEmoji := by
      rw [← hc.isAlphanumeric_iff]
      simp
    intro r
    rw [List.cons_append, onlySymbols, hc.not_base, Bool.false_and, Bool.or_false, Bool.and_eq_true, hstep,
      ih hrest r, List.forall_mem_cons, and_assoc]

theorem scansAsEmoji_blank (h : allBlank u = true) : ScansAsEmoji u := by
  refine scansAsEmoji_of_forall fun c hc => ?_
  have hall : ∀ n ∈ blankCodes, isKeycapBase (.ofNat n) = false ∧
      isAlphanumeric (.ofNat n) = false := by decide +kernel
  have hcode := hall c.toNat (toNat_mem_blankCodes (List.all_eq_true.mp h c hc))
  rw [Char.ofNat_toNat] at hcode
  exact ⟨hcode.1, Or.inr hcode.2⟩

theorem isOffKeycap_mark (h : c ∈ glyphMarks) : IsOffKeycap c := by
  have hall : glyphMarks.all (fun c => !isKeycapBase c && !isAlphanumeric c) = true := by
    decide +kernel
  have hc := List.all_eq_true.mp hall c h
  rw [Bool.and_eq_true, Bool.not_eq_true', Bool.not_eq_true'] at hc
  exact ⟨hc.1, Or.inr hc.2⟩

theorem Text.IsPictograph.scansAsEmoji (h : IsPictograph u) : ScansAsEmoji u := by
  refine scansAsEmoji_of_forall fun c hc => ?_
  rcases h.forall_mem c hc with hemoji | hmark
  · exact ⟨isKeycapBase_eq_false hemoji.le_toNat, Or.inl hemoji⟩
  · exact isOffKeycap_mark hmark

/-- A digit is passed over for the mark behind it. -/
theorem ScansAsEmoji.cons_keycapBase (h : ScansAsEmoji (d :: v)) (hc : c ∈ keycapBases)
    (hd : isKeycapMark d = true) : ScansAsEmoji (c :: d :: v) := by
  have hbases : keycapBases.all (fun c => isKeycapBase c && !letterEmoji.contains c) = true := by
    decide
  have hbase := List.all_eq_true.mp hbases c hc
  rw [Bool.and_eq_true, Bool.not_eq_true', ← Bool.not_eq_true, List.contains_iff_mem] at hbase
  intro r
  have hstep : (!isAlphanumeric c || isKeycapBase c && (d :: v ++ r).head?.any isKeycapMark) =
      true := by
    simp [hbase.1, hd]
  rw [List.cons_append, onlySymbols, hstep, Bool.true_and, h r, List.forall_mem_cons (a := c),
    and_iff_right hbase.2]

theorem Text.IsGlyph.scansAsEmoji (h : IsGlyph g) : ScansAsEmoji g := by
  have hmarks : ∀ {u}, u ⊆ glyphMarks → ScansAsEmoji u := fun hu =>
    scansAsEmoji_of_forall fun c hc => isOffKeycap_mark (hu hc)
  cases h with
  | pictograph hg => exact hg.scansAsEmoji
  | keycap hc => exact (hmarks (by simp [glyphMarks])).cons_keycapBase hc rfl
  | selectedKeycap hc => exact (hmarks (by simp [glyphMarks])).cons_keycapBase hc rfl

theorem Text.IsEmojiText.scansAsEmoji (h : IsEmojiText t) : ScansAsEmoji t := by
  induction h with
  | glyph hg => exact hg.scansAsEmoji
  | more _ hb hg ih => exact (ih.append (scansAsEmoji_blank hb)).append hg.scansAsEmoji

/-- Emoji pass for symbols unless one of them is a letter. -/
theorem Text.IsEmojiText.isEmojiOnly_iff (h : IsEmojiText t) :
    isEmojiOnly t = true ↔ ∀ c ∈ t, c ∉ letterEmoji := by
  have hbeyond : t.any (127 < ·.toNat) = true := by simpa using h.beyondAscii
  have hscan := h.scansAsEmoji []
  rw [List.append_nil] at hscan
  rw [isEmojiOnly, hbeyond, Bool.and_true, hscan]
  exact and_iff_left rfl

/-! ### Messages of emoji -/

theorem Text.IsEmoji.not_wordSign (h : IsEmoji c) : c.isAlpha = false ∧ c ∉ wordSigns := by
  have hbeyond := h.le_toNat
  constructor
  · refine Bool.eq_false_iff.mpr fun halpha => ?_
    have := toNat_lt_of_isAlpha halpha
    omega
  · intro hmem
    have hcodes : wordSigns.map Char.toNat = [0x130, 0x212a, 63, 96] := by decide
    have hcode : c.toNat ∈ wordSigns.map Char.toNat := List.mem_map_of_mem hmem
    have hbeside := h.toNat_not_mem
    simp only [hcodes, List.mem_cons, List.not_mem_nil, or_false, not_or] at hcode hbeside
    omega

theorem Text.IsEmojiText.isWordless (h : IsEmojiText t) : IsWordless t := by
  have hparts : (glyphMarks ++ keycapBases).all (fun c => !c.isAlpha && !wordSigns.contains c) =
      true := by decide
  have hblanks : ∀ n ∈ blankCodes, (Char.ofNat n).isAlpha = false ∧ Char.ofNat n ∉ wordSigns := by
    decide
  intro c hc
  rcases h.forall_mem c hc with hemoji | hpart | hblank
  · exact hemoji.not_wordSign
  · have hfacts := List.all_eq_true.mp hparts c hpart
    simpa using hfacts
  · have hfacts := hblanks c.toNat (toNat_mem_blankCodes hblank)
    rwa [Char.ofNat_toNat] at hfacts

/-- A message of emoji is trivial unless it is long and one of its emoji is a letter; then it is
still taken for a small request. -/
theorem emoji_text_trivial_iff (m : String) (h : IsEmojiText m.toList) :
    ((classify m).intent = .trivial ↔ (∀ c ∈ m.toList, c ∉ letterEmoji) ∨ m.length < 10) ∧
      (classify m).intent ∈ [Intent.trivial, .simple, .standard] := by
  have htrim : trim m.toList = m.toList := h.isTrimmed.trim_eq
  have hwordless : IsWordless (trim m.toList) := by
    rw [htrim]
    exact h.isWordless
  obtain ⟨htrivial, hmem⟩ := intent_of_wordless hwordless
  rw [htrim, or_iff_right h.ne_nil, h.isEmojiOnly_iff, String.length_toList] at htrivial
  exact ⟨htrivial, hmem⟩

/-- A keycap, a thumb with a skin tone and a family. -/
theorem emoji_text_trivial_iff_family :
    IsEmojiText "1\ufe0f\u20e3👍🏽  👩\u200d👩\u200d👧".toList ∧
      (classify "1\ufe0f\u20e3👍🏽  👩\u200d👩\u200d👧").intent = .trivial := by
  obtain ⟨hthumb, hwoman, hgirl⟩ : IsEmoji '👍' ∧ IsEmoji '👩' ∧ IsEmoji '👧' := by decide
  have hkeycap : IsGlyph ['1', '\ufe0f', '\u20e3'] := .selectedKeycap (by decide)
  have htoned : IsGlyph ['👍', '🏽'] := .pictograph (.toned (.plain hthumb) (by decide))
  have hfamily : IsGlyph ['👩', '\u200d', '👩', '\u200d', '👧'] :=
    .pictograph (.joined (.joined (.plain hwoman) hwoman) hgirl)
  have hpair : IsEmojiText (['1', '\ufe0f', '\u20e3'] ++ [] ++ ['👍', '🏽']) :=
    .more (.glyph hkeycap) rfl htoned
  have htext : IsEmojiText "1\ufe0f\u20e3👍🏽  👩\u200d👩\u200d👧".toList :=
    .more (b := [' ', ' ']) hpair (by decide) hfamily
  have hshown : "1\ufe0f\u20e3👍🏽  👩\u200d👩\u200d👧".toList.any letterEmoji.contains = false := by
    decide
  refine ⟨htext, (emoji_text_trivial_iff _ htext).1.mpr (Or.inl fun c hc hletter => ?_)⟩
  exact List.any_eq_false.mp hshown c hc (List.contains_iff_mem.mpr hletter)

/-- Five signs for information, each with its selector, are not trivial. -/
theorem not_forall_emoji_text_trivial :
    ¬ ∀ m : String, IsEmojiText m.toList → (classify m).intent = .trivial := by
  intro hall
  have hemoji : IsEmoji 'ℹ' := by decide
  have hsign : IsGlyph ['ℹ', '\ufe0f'] := .pictograph (.selected (.plain hemoji))
  have hmore : ∀ {t}, IsEmojiText t → IsEmojiText (t ++ [] ++ ['ℹ', '\ufe0f']) :=
    fun ht => .more ht rfl hsign
  have htext : IsEmojiText "ℹ\ufe0fℹ\ufe0fℹ\ufe0fℹ\ufe0fℹ\ufe0f".toList :=
    hmore (hmore (hmore (hmore (.glyph hsign))))
  have hwordless := htext.isWordless
  rw [← htext.isTrimmed.trim_eq] at hwordless
  have htrivial := (intent_of_wordless hwordless).1.mp (hall _ htext)
  revert htrivial
  decide +kernel

end TierRouting
