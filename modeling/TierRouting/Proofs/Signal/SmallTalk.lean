import TierRouting.Proofs.Signal.Markers
import TierRouting.Proofs.Signal.Scores
import TierRouting.Proofs.Signal.Verdict
import TierRouting.Proofs.Text.AsciiLetters
import TierRouting.Proofs.Text.Lowercasing
import TierRouting.Proofs.Text.Trimming

/-! What the stages for small talk leave to the stages behind them. -/
namespace TierRouting

open Phrases Text

variable {f : Features} {c : Float32} {s : Stage} {v : Verdict} {i : Intent} {intents : List Intent}
  {table : List Stage} {r : Rule} {d : Char} {cs : List Char}

namespace Stage

/-- Whatever the stage settles, it settles as this. -/
def Yields (s : Stage) (i : Intent) : Prop :=
  ∀ signals v, s.verdict? signals = some v → v.intent = i

theorem yields_of_firstMatch (h : s.decision = .firstMatch v) (hi : v.intent = i) :
    s.Yields i := by
  intro signals w hw
  rw [verdict?, h] at hw
  rw [← Option.some.inj (Option.ite_none_right_eq_some.mp hw).2, hi]

theorem yields_flagship : flagship.Yields .flagship := by
  intro signals v hv
  have hjudge : judgeFlagship (score signals) = some v := hv
  obtain rfl := Option.some.inj (Option.ite_none_right_eq_some.mp hjudge).2
  rfl

theorem yields_complex : complex.Yields .complex := by
  intro signals v hv
  have hjudge : judgeComplex (score signals) = some v := hv
  obtain rfl := Option.some.inj (Option.ite_none_right_eq_some.mp hjudge).2
  rfl

end Stage

theorem intent_settle_cons (hs : s.Yields i) :
    (settle f (s :: table) 0).2.intent =
      if s.decides f then i else (settle f table (s.complexityAfter f 0)).2.intent := by
  cases hv : s.verdict? (s.evaluate f 0) with
  | some v => simp [settle_cons_of_some hv, Stage.decides, hv, hs _ v hv]
  | none => simp [settle_cons_of_none hv, Stage.decides, hv]

theorem intent_settle_mem (hall : ∀ s ∈ table, ∃ i ∈ intents, s.Yields i)
    (hfallback : Verdict.fallback.intent ∈ intents) : (settle f table c).2.intent ∈ intents := by
  induction table generalizing c with
  | nil => exact hfallback
  | cons s table ih =>
    obtain ⟨i, hi, hs⟩ := hall s List.mem_cons_self
    cases hv : s.verdict? (s.evaluate f c) with
    | some v =>
      rw [settle_cons_of_some hv, hs _ v hv]
      exact hi
    | none =>
      rw [settle_cons_of_none hv]
      exact ih fun t ht => hall t (List.mem_cons_of_mem s ht)

namespace Features

/-- A stage for messages that ask for nothing settles it. -/
def isSmallTalk (f : Features) : Bool :=
  Stage.blankMessage.decides f || Stage.trivialPhrase.decides f || Stage.shortMessage.decides f

end Features

/-- The stages in order, up to the one that scores complexity. -/
theorem intent_classify (m : String) : ∃ later ∈ [Intent.simple, .standard],
    (classify m).intent =
      if Stage.blankMessage.decides (.ofMessage m) then .trivial
      else if Stage.explicitModel.decides (.ofMessage m) then .explicit
      else if Stage.trivialPhrase.decides (.ofMessage m) then .trivial
      else if Stage.shortMessage.decides (.ofMessage m) then .trivial
      else if Stage.flagship.decides (.ofMessage m) then .flagship
      else if Stage.complex.decides (.ofMessage m) then .complex
      else later := by
  have hrest : ∀ s ∈ [Stage.simplePhrase, .shortAndPlain, .undecided],
      ∃ i ∈ [Intent.simple, .standard], s.Yields i := by
    rw [← List.forall_iff_forall_mem]
    exact ⟨⟨.simple, .head _, Stage.yields_of_firstMatch rfl rfl⟩,
      ⟨.simple, .head _, Stage.yields_of_firstMatch rfl rfl⟩,
      ⟨.standard, .tail _ (.head _), Stage.yields_of_firstMatch rfl rfl⟩⟩
  have hzero : ∀ s : Stage, s.scoresComplexity = false → s.complexityAfter (.ofMessage m) 0 = 0 :=
    fun s hs => by simp [Stage.complexityAfter, hs]
  have hclassify : (classify m).intent = (settle (.ofMessage m) Stage.all 0).2.intent := rfl
  refine ⟨_, intent_settle_mem (f := .ofMessage m)
    (c := Stage.complex.complexityAfter (.ofMessage m) 0) hrest (by decide), ?_⟩
  rw [hclassify, Stage.all, intent_settle_cons (Stage.yields_of_firstMatch rfl rfl), hzero _ rfl,
    intent_settle_cons (Stage.yields_of_firstMatch rfl rfl), hzero _ rfl,
    intent_settle_cons (Stage.yields_of_firstMatch rfl rfl), hzero _ rfl,
    intent_settle_cons (Stage.yields_of_firstMatch rfl rfl), hzero _ rfl,
    intent_settle_cons Stage.yields_flagship, hzero _ rfl, intent_settle_cons Stage.yields_complex]

section Demanding

variable {m : String}

theorem decides_of_intent_flagship (h : (classify m).intent = .flagship) :
    (Features.ofMessage m).isSmallTalk = false ∧ Stage.flagship.decides (.ofMessage m) = true := by
  obtain ⟨later, hlater, hintent⟩ := intent_classify m
  rw [hintent] at h
  rw [List.mem_pair] at hlater
  split_ifs at h <;> simp_all [Features.isSmallTalk]

theorem decides_of_intent_complex (h : (classify m).intent = .complex) :
    (Features.ofMessage m).isSmallTalk = false ∧ Stage.complex.decides (.ofMessage m) = true := by
  obtain ⟨later, hlater, hintent⟩ := intent_classify m
  rw [hintent] at h
  rw [List.mem_pair] at hlater
  split_ifs at h <;> simp_all [Features.isSmallTalk]

theorem intent_mem_of_flagship (hsmall : (Features.ofMessage m).isSmallTalk = false)
    (h : Stage.flagship.decides (.ofMessage m) = true) :
    (classify m).intent ∈ [Intent.flagship, .explicit] := by
  obtain ⟨later, -, hintent⟩ := intent_classify m
  rw [hintent]
  simp only [Features.isSmallTalk, Bool.or_eq_false_iff] at hsmall
  simp only [hsmall, h]
  split_ifs <;> simp_all

theorem intent_mem_of_complex (hsmall : (Features.ofMessage m).isSmallTalk = false)
    (h : Stage.complex.decides (.ofMessage m) = true) :
    (classify m).intent ∈ [Intent.complex, .flagship, .explicit] := by
  obtain ⟨later, -, hintent⟩ := intent_classify m
  rw [hintent]
  simp only [Features.isSmallTalk, Bool.or_eq_false_iff] at hsmall
  simp only [hsmall, h]
  split_ifs <;> simp_all

end Demanding

/-! ### Demanding messages are telling -/

theorem Phrases.Demands.telling (hr : Demands r) (h : (r.signal f 0).isMatch = true) :
    Telling f.lower := by
  obtain ⟨a, htest, -, ha⟩ := hr
  simp only [Rule.signal, htest] at h
  exact .of_occursIn ha h

theorem telling_of_flagship (h : Stage.flagship.decides f = true) : Telling f.lower := by
  obtain ⟨r, hr, hmatch⟩ := Stage.decides_flagship_iff.mp h
  exact (demands_flagship r hr).telling hmatch

/-- Length and lists alone do not make a message complex. -/
theorem Features.sign_of_complexity (h : 50 ≤ f.complexity) :
    0 < f.phraseCount ∨ '\x60' ∈ f.text ∨ 2 ≤ f.questionMarks := by
  by_contra hnone
  simp only [not_or] at hnone
  obtain ⟨hcount, hcode, hquestions⟩ := hnone
  have hfence : Text.occursIn "\x60\x60\x60".toList f.text = false := by
    refine Bool.eq_false_iff.mpr fun hfence => hcode ?_
    exact (occursIn_iff.mp hfence).subset (by decide)
  have hnumbered := (numberedList.occursIn f.lower).toNat_le
  rw [f.complexity_eq, hfence, Bool.toNat_false, if_neg hquestions] at h
  split_ifs at h <;> omega

theorem telling_lowercase (hsigma : d ≠ 'Σ') (hlower : lowerChar d = [d]) (hd : [d] ∈ markers)
    (h : d ∈ cs) : Telling (lowercase cs) :=
  ⟨[d], hd, (List.singleton_infix_iff d _).mpr (mem_lowercase hsigma hlower h)⟩

theorem telling_of_complex (m : String) (h : Stage.complex.decides (.ofMessage m) = true) :
    Telling (Features.ofMessage m).lower := by
  rcases Features.sign_of_complexity (Stage.decides_complex_iff.mp h) with h | h | h
  · obtain ⟨r, hr, hmatch⟩ := List.countP_pos_iff.mp h
    exact (demands_complex r hr).telling hmatch
  · exact telling_lowercase (by decide) (by decide +kernel) (by decide +kernel) h
  · have hcount : 0 < (Features.ofMessage m).text.count '?' := Nat.lt_of_lt_of_le Nat.zero_lt_two h
    exact telling_lowercase (by decide) (by decide +kernel) (by decide +kernel)
      (List.count_pos_iff.mp hcount)

/-! ### Messages with letters -/

theorem Stage.decides_blankMessage_iff : blankMessage.decides f = true ↔ f.text = [] := by
  simp [decides, verdict?, blankMessage, evaluate, Rule.signal]

theorem Stage.decides_shortMessage_iff :
    shortMessage.decides f = true ↔ f.text.length < 10 ∧ f.questionMarks = 0 := by
  simp [decides, verdict?, shortMessage, evaluate, Rule.signal]

theorem letter_facts (hd : d.isAlpha = true) :
    isBlank d = false ∧ isAlphanumeric d = true ∧ isKeycapBase d = false := by
  have hall : ∀ n < 123, (Char.ofNat n).isAlpha = true → isBlank (.ofNat n) = false ∧
      isAlphanumeric (.ofNat n) = true ∧ isKeycapBase (.ofNat n) = false := by decide +kernel
  have hfacts := hall d.toNat (toNat_lt_of_isAlpha hd)
  rw [Char.ofNat_toNat] at hfacts
  exact hfacts hd

theorem onlySymbols_eq_false (hd : d.isAlpha = true) (h : d ∈ cs) : onlySymbols cs = false := by
  obtain ⟨-, halnum, hkeycap⟩ := letter_facts hd
  induction cs with
  | nil => simp at h
  | cons e r ih =>
    rw [onlySymbols, Bool.and_eq_false_iff]
    rcases List.mem_cons.mp h with rfl | h
    · exact Or.inl (by simp [halnum, hkeycap])
    · exact Or.inr (ih h)

theorem Stage.not_decides_trivialPhrase (htelling : Telling f.lower) (hd : d.isAlpha = true)
    (hmem : d ∈ f.text) : trivialPhrase.decides f = false := by
  have hgreeting : greeting.occursIn f.lower = false :=
    Bool.eq_false_iff.mpr fun h => not_telling_of_greeting h htelling
  have hacknowledgement : acknowledgement.occursIn f.lower = false :=
    Bool.eq_false_iff.mpr fun h => not_telling_of_acknowledgement h htelling
  have hyesNo : yesNo.occursIn f.lower = false :=
    Bool.eq_false_iff.mpr fun h => not_telling_of_yesNo h htelling
  have hfarewell : farewell.occursIn f.lower = false :=
    Bool.eq_false_iff.mpr fun h => not_telling_of_farewell h htelling
  have hemoji : isEmojiOnly f.text = false := by simp [isEmojiOnly, onlySymbols_eq_false hd hmem]
  simp [decides, verdict?, trivialPhrase, evaluate, Rule.signal, hgreeting, hacknowledgement,
    hyesNo, hfarewell, hemoji]

end TierRouting
