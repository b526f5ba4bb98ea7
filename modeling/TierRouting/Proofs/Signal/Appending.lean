import TierRouting.Proofs.Signal.SmallTalk
import TierRouting.Tier

/-! Text behind a demanding message does not turn it into an undemanding one. -/
namespace TierRouting

open Text

variable {f g : Features} {m t : String} {r : Rule} {d : Char}

/-- What the rules see of a message that goes on behind its last word. -/
structure Features.Extends (f g : Features) : Prop where
  text : f.text <+: g.text
  lower : ∃ more, EndsWord more ∧ g.lower = f.lower ++ more
  words : f.words ≤ g.words
  questionMarks : f.questionMarks ≤ g.questionMarks

theorem Features.Extends.refl (f : Features) : f.Extends f where
  text := List.prefix_refl _
  lower := ⟨[], rfl, (List.append_nil _).symm⟩
  words := Nat.le_refl _
  questionMarks := Nat.le_refl _

theorem extends_ofMessage (hm : allBlank m.toList = false) (t : String) :
    (Features.ofMessage m).Extends (.ofMessage (m ++ "\n" ++ t)) := by
  have htext : (m ++ "\n" ++ t).toList = m.toList ++ '\n' :: t.toList := by
    simp [String.toList_append]
  rcases trim_append_blank hm (c := '\n') rfl t.toList with h | ⟨d, more, hd, h⟩
  · have hsame : Features.ofMessage (m ++ "\n" ++ t) = .ofMessage m := by
      simp only [Features.ofMessage, htext, h]
    rw [hsame]
    exact .refl _
  · have hlower := lowercase_append_blank hd (trim m.toList) more
    refine ⟨?_, ⟨d :: lowercase more, ?_, ?_⟩, ?_, ?_⟩
    · simp [Features.ofMessage, htext, h]
    · simp [EndsWord, (caseless_of_blank hd).not_word]
    · simp [Features.ofMessage, htext, h, hlower]
    · simp [Features.ofMessage, htext, h, words_append_blank hd]
    · simp [Features.ofMessage, htext, h]

namespace Features.Extends

theorem isMatch (h : f.Extends g) (hr : Phrases.Demands r)
    (hmatch : (r.signal f 0).isMatch = true) : (r.signal g 0).isMatch = true := by
  obtain ⟨a, htest, hopen, -⟩ := hr
  obtain ⟨more, hmore, hlower⟩ := h.lower
  simp only [Rule.signal, htest] at hmatch ⊢
  rw [hlower]
  exact Pattern.occursIn_extend hopen hmore hmatch

theorem phraseCount_le (h : f.Extends g) : f.phraseCount ≤ g.phraseCount :=
  List.countP_mono_left fun r hr => h.isMatch (Phrases.demands_complex r hr)

theorem complexity_le (h : f.Extends g) : f.complexity ≤ g.complexity := by
  have hcount := h.phraseCount_le
  -- A message may leave the fifty words of one rule only for the hundred of the other.
  have hlong : (if 100 < f.words then 30 else if 50 < f.words then 15 else 0) ≤
      if 100 < g.words then 30 else if 50 < g.words then 15 else 0 := by
    have hwords := h.words
    split_ifs <;> omega
  have hasked : (if 2 ≤ f.questionMarks then 20 else 0) ≤
      if 2 ≤ g.questionMarks then 20 else 0 := by
    have hquestions := h.questionMarks
    split_ifs <;> omega
  have hcode : Text.occursIn "\x60\x60\x60".toList f.text = true →
      Text.occursIn "\x60\x60\x60".toList g.text = true := by
    rw [occursIn_iff, occursIn_iff]
    exact fun hinfix => hinfix.trans h.text.isInfix
  have hnumbered : Phrases.numberedList.occursIn f.lower = true →
      Phrases.numberedList.occursIn g.lower = true := by
    obtain ⟨more, hmore, hlower⟩ := h.lower
    rw [hlower]
    exact Pattern.occursIn_extend rfl hmore
  have hcode := Bool.toNat_le_toNat (Bool.le_iff_imp.mpr hcode)
  have hnumbered := Bool.toNat_le_toNat (Bool.le_iff_imp.mpr hnumbered)
  rw [f.complexity_eq, g.complexity_eq]
  omega

theorem decides_flagship (h : f.Extends g) (hf : Stage.flagship.decides f = true) :
    Stage.flagship.decides g = true := by
  rw [Stage.decides_flagship_iff] at hf ⊢
  obtain ⟨r, hr, hmatch⟩ := hf
  exact ⟨r, hr, h.isMatch (Phrases.demands_flagship r hr) hmatch⟩

theorem decides_complex (h : f.Extends g) (hf : Stage.complex.decides f = true) :
    Stage.complex.decides g = true := by
  rw [Stage.decides_complex_iff] at hf ⊢
  exact Nat.le_trans hf h.complexity_le

theorem telling (h : f.Extends g) (hf : Phrases.Telling f.lower) : Phrases.Telling g.lower := by
  obtain ⟨more, -, hlower⟩ := h.lower
  rw [hlower]
  exact hf.mono (List.prefix_append ..).isInfix

/-- A letter keeps the longer message from being blank or symbols only, its phrase from being a
greeting, and it is no shorter. -/
theorem isSmallTalk_eq_false (h : f.Extends g) (hd : d.isAlpha = true) (hmem : d ∈ f.text)
    (htelling : Phrases.Telling f.lower) (hf : f.isSmallTalk = false) : g.isSmallTalk = false := by
  have hmem : d ∈ g.text := h.text.subset hmem
  have hblank : Stage.blankMessage.decides g = false := by
    refine Bool.eq_false_iff.mpr fun hg => ?_
    rw [Stage.decides_blankMessage_iff.mp hg] at hmem
    contradiction
  have hphrase := Stage.not_decides_trivialPhrase (h.telling htelling) hd hmem
  have hshort : Stage.shortMessage.decides g = false := by
    refine Bool.eq_false_iff.mpr fun hg => ?_
    have hlength := h.text.length_le
    have hquestions := h.questionMarks
    have hg := Stage.decides_shortMessage_iff.mp hg
    have hshort : Stage.shortMessage.decides f = true :=
      Stage.decides_shortMessage_iff.mpr (by omega)
    simp [Features.isSmallTalk, hshort] at hf
  simp [Features.isSmallTalk, hblank, hphrase, hshort]

end Features.Extends

section Letter

variable (hd : d.isAlpha = true) (hmem : d ∈ m.toList)
include hd hmem

theorem extends_of_letter (t : String) :
    d ∈ (Features.ofMessage m).text ∧
      (Features.ofMessage m).Extends (.ofMessage (m ++ "\n" ++ t)) := by
  have hnotBlank := (letter_facts hd).1
  exact ⟨mem_trim hnotBlank hmem, extends_ofMessage (allBlank_eq_false hnotBlank hmem) t⟩

theorem intent_append_of_flagship (t : String) (h : (classify m).intent = .flagship) :
    (classify (m ++ "\n" ++ t)).intent ∈ [Intent.flagship, .explicit] := by
  obtain ⟨hletter, hextends⟩ := extends_of_letter hd hmem t
  obtain ⟨hsmall, hdecides⟩ := decides_of_intent_flagship h
  have hkept := hextends.isSmallTalk_eq_false hd hletter (telling_of_flagship hdecides) hsmall
  exact intent_mem_of_flagship hkept (hextends.decides_flagship hdecides)

theorem intent_append_of_complex (t : String) (h : (classify m).intent = .complex) :
    (classify (m ++ "\n" ++ t)).intent ∈ [Intent.complex, .flagship, .explicit] := by
  obtain ⟨hletter, hextends⟩ := extends_of_letter hd hmem t
  obtain ⟨hsmall, hdecides⟩ := decides_of_intent_complex h
  have hkept := hextends.isSmallTalk_eq_false hd hletter (telling_of_complex m hdecides) hsmall
  exact intent_mem_of_complex hkept (hextends.decides_complex hdecides)

end Letter

/-- A message with a letter that asks for much asks for no less, whatever follows it: its phrases
stay, its counts do not fall, and nothing that follows makes small talk of it. -/
theorem classify_append (m t : String) (hletter : ∃ c ∈ m.toList, c.isAlpha = true) :
    ((classify m).intent = .flagship →
      (classify (m ++ "\n" ++ t)).intent ∈ [Intent.flagship, .explicit]) ∧
    ((classify m).intent = .complex →
      (classify (m ++ "\n" ++ t)).intent ∈ [Intent.complex, .flagship, .explicit]) ∧
    ((classify m).intent ∈ [Intent.complex, .flagship] →
      (classify m).intent.minimumTier ≤ (classify (m ++ "\n" ++ t)).intent.minimumTier) := by
  obtain ⟨c, hmem, hc⟩ := hletter
  refine ⟨intent_append_of_flagship hc hmem t, intent_append_of_complex hc hmem t, fun h => ?_⟩
  have hcomplex : ∀ i ∈ [Intent.complex, .flagship, .explicit],
      Intent.complex.minimumTier ≤ i.minimumTier := by decide
  have hflagship : ∀ i ∈ [Intent.flagship, .explicit],
      Intent.flagship.minimumTier ≤ i.minimumTier := by decide
  rcases List.mem_pair.mp h with h | h
  · rw [h]
    exact hcomplex _ (intent_append_of_complex hc hmem t h)
  · rw [h]
    exact hflagship _ (intent_append_of_flagship hc hmem t h)

theorem classify_append_thanks :
    (∃ c ∈ "Deep dive into TLS".toList, c.isAlpha = true) ∧
      (classify "Deep dive into TLS").intent = .flagship ∧
      (classify ("Deep dive into TLS" ++ "\n" ++ "ok, thanks!")).intent ∈
        [Intent.flagship, .explicit] ∧
    (∃ c ∈ "Debug and refactor it".toList, c.isAlpha = true) ∧
      (classify "Debug and refactor it").intent = .complex ∧
      (classify ("Debug and refactor it" ++ "\n" ++ "ok, thanks!")).intent ∈
        [Intent.complex, .flagship, .explicit] ∧
      (classify "Debug and refactor it").intent.minimumTier ≤
        (classify ("Debug and refactor it" ++ "\n" ++ "ok, thanks!")).intent.minimumTier := by
  have hdeep : ∃ c ∈ "Deep dive into TLS".toList, c.isAlpha = true := ⟨'D', by decide, by decide⟩
  have hdebug : ∃ c ∈ "Debug and refactor it".toList, c.isAlpha = true :=
    ⟨'D', by decide, by decide⟩
  have hflagship : (classify "Deep dive into TLS").intent = .flagship := by decide +kernel
  have hcomplex : (classify "Debug and refactor it").intent = .complex := by decide +kernel
  obtain ⟨hstays, -⟩ := classify_append _ "ok, thanks!" hdeep
  obtain ⟨-, hremains, htier⟩ := classify_append _ "ok, thanks!" hdebug
  exact ⟨hdeep, hflagship, hstays hflagship, hdebug, hcomplex, hremains hcomplex,
    htier (by rw [hcomplex]; decide)⟩

end TierRouting
