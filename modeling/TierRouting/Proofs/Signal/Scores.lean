import Mathlib.Logic.Function.Iterate
import TierRouting.Signal.Classify

/-! When the sums of weights reach their thresholds, in whole hundredths. -/
namespace TierRouting

variable {f : Features} {c w : Float32} {signals : List Signal}

/-- A sum with the part of one more signal. -/
def Signal.addTo (sum : Float32) (s : Signal) : Float32 := if s.isMatch then sum + s.weight else sum

/-- Signals of one weight only have to be counted. -/
theorem foldl_addTo_of_weight (h : ∀ s ∈ signals, s.weight = w) (sum : Float32) :
    signals.foldl Signal.addTo sum = (· + w)^[signals.countP (·.isMatch)] sum := by
  induction signals generalizing sum with
  | nil => rfl
  | cons s rest ih =>
    have hs : s.weight = w := h s List.mem_cons_self
    have hrest := ih fun t ht => h t (List.mem_cons_of_mem s ht)
    rw [List.foldl_cons, hrest]
    cases hm : s.isMatch with
    | true => simp [Signal.addTo, hm, hs]
    | false => simp [Signal.addTo, hm]

theorem isSome_judgeFlagship : ∀ n < 10,
    (judgeFlagship ((· + flagshipWeight)^[n] 0)).isSome = decide (0 < n) := by
  decide +kernel

/-- The signals of the rules behind those for complex phrases. -/
def countedSignals (over100 over50 code questions numbered : Bool) : List Signal :=
  [⟨"word_count_over_100", 0.3, over100⟩, ⟨"word_count_over_50", 0.15, over50⟩,
    ⟨"code_block", 0.3, code⟩, ⟨"multiple_questions", 0.2, questions⟩,
    ⟨"numbered_list", 0.15, numbered⟩]

/-- The same weights in hundredths. -/
def hundredths (n : Nat) (over100 over50 code questions numbered : Bool) : Nat :=
  25 * n + 30 * over100.toNat + 15 * over50.toNat + 30 * code.toNat + 20 * questions.toNat +
    15 * numbered.toNat

/-- Rounding never decides: the tolerance is greater than all that is lost in a sum. -/
theorem isSome_judgeComplex : ∀ n < 15, ∀ over100 over50 code questions numbered : Bool,
    (judgeComplex ((countedSignals over100 over50 code questions numbered).foldl Signal.addTo
      ((· + complexWeight)^[n] 0))).isSome =
        decide (50 ≤ hundredths n over100 over50 code questions numbered) := by
  decide +kernel

namespace Features

/-- How many of the phrases for complex tasks a message has. -/
def phraseCount (f : Features) : Nat :=
  (Stage.complex.rules.take 14).countP fun r => (r.signal f 0).isMatch

/-- The weight that the complex stage gives a message, in hundredths. -/
def complexity (f : Features) : Nat :=
  hundredths f.phraseCount (100 < f.words) (50 < f.words && f.words ≤ 100)
    (Text.occursIn "\x60\x60\x60".toList f.text) (2 ≤ f.questionMarks)
    (Phrases.numberedList.occursIn f.lower)

/-- At most one of the two rules for long messages matches. -/
theorem complexity_eq (f : Features) :
    f.complexity = 25 * f.phraseCount +
      (if 100 < f.words then 30 else if 50 < f.words then 15 else 0) +
      30 * (Text.occursIn "\x60\x60\x60".toList f.text).toNat +
      (if 2 ≤ f.questionMarks then 20 else 0) +
      15 * (Phrases.numberedList.occursIn f.lower).toNat := by
  have hlong : 30 * (decide (100 < f.words)).toNat +
      15 * (decide (50 < f.words) && decide (f.words ≤ 100)).toNat =
        if 100 < f.words then 30 else if 50 < f.words then 15 else 0 := by
    by_cases h100 : 100 < f.words
    · simp [h100, Nat.not_le.mpr h100]
    · by_cases h50 : 50 < f.words <;> simp [h100, h50, Nat.not_lt.mp h100]
  have hasked : 20 * (decide (2 ≤ f.questionMarks)).toNat =
      if 2 ≤ f.questionMarks then 20 else 0 := by
    by_cases h : 2 ≤ f.questionMarks <;> simp [h]
  rw [← hasked, complexity, hundredths, ← hlong]
  omega

end Features

namespace Stage

/-- The stage reaches a verdict, as long as no complexity has been scored. -/
def decides (s : Stage) (f : Features) : Bool := (s.verdict? (s.evaluate f 0)).isSome

theorem decides_flagship_iff :
    flagship.decides f = true ↔ ∃ r ∈ flagship.rules, (r.signal f 0).isMatch = true := by
  have hweight : ∀ s ∈ flagship.evaluate f 0, s.weight = flagshipWeight := by
    simp [flagship, evaluate, Rule.signal]
  have hlength : (flagship.evaluate f 0).length = 9 := rfl
  have hcount : (flagship.evaluate f 0).countP (·.isMatch) < 10 := by
    have hle := List.countP_le_length (p := (·.isMatch)) (l := flagship.evaluate f 0)
    omega
  have hscore : score (flagship.evaluate f 0) =
      (· + flagshipWeight)^[(flagship.evaluate f 0).countP (·.isMatch)] 0 :=
    foldl_addTo_of_weight hweight 0
  have hverdict : flagship.verdict? (flagship.evaluate f 0) =
      judgeFlagship (score (flagship.evaluate f 0)) := rfl
  rw [decides, hverdict, hscore, isSome_judgeFlagship _ hcount, decide_eq_true_eq,
    List.countP_pos_iff]
  simp [evaluate]

theorem decides_complex_iff : complex.decides f = true ↔ 50 ≤ f.complexity := by
  have hsignals : complex.evaluate f 0 = (complex.rules.take 14).map (·.signal f 0) ++
      countedSignals (100 < f.words) (50 < f.words && f.words ≤ 100)
        (Text.occursIn "\x60\x60\x60".toList f.text) (2 ≤ f.questionMarks)
        (Phrases.numberedList.occursIn f.lower) := rfl
  have hweight : ∀ s ∈ (complex.rules.take 14).map (·.signal f 0), s.weight = complexWeight := by
    simp [complex, Rule.signal]
  have hcount : f.phraseCount < 15 := by
    have hle : f.phraseCount ≤ (complex.rules.take 14).length := List.countP_le_length
    have hlength : (complex.rules.take 14).length = 14 := rfl
    omega
  have hphrases : ((complex.rules.take 14).map (·.signal f 0)).foldl Signal.addTo 0 =
      (· + complexWeight)^[f.phraseCount] 0 := by
    rw [foldl_addTo_of_weight hweight, List.countP_map]
    rfl
  have hscore : score (complex.evaluate f 0) = (complex.evaluate f 0).foldl Signal.addTo 0 := rfl
  have hverdict : complex.verdict? (complex.evaluate f 0) =
      judgeComplex (score (complex.evaluate f 0)) := rfl
  rw [decides, hverdict, hscore, hsignals, List.foldl_append, hphrases,
    isSome_judgeComplex _ hcount, decide_eq_true_eq]
  rfl

end Stage
end TierRouting
