import TierRouting.Proofs.Signal.Letters
import TierRouting.Proofs.Signal.SmallTalk

/-! Messages of symbols: which ones the rule for emoji accepts, and that no rule ahead of it does. -/
namespace TierRouting

open Phrases Text

variable {f : Features} {k : Float32} {s : Stage} {v : Verdict} {r r' : Rule} {x : Signal}
  {earlier table : List Stage} {m : String} {c : Char} {cs : List Char}

/-- A text beyond ASCII without letters and digits other than the digits of keycaps. -/
structure IsSymbolic (text : List Char) : Prop where
  beyondAscii : ∃ c ∈ text, 127 < c.toNat
  keycaps : ∀ a c r, text = a ++ c :: r → isAlphanumeric c = true →
    c.isDigit = true ∧ (r.head? = some '\ufe0f' ∨ r.head? = some '\u20e3')

theorem isKeycapBase_eq (h : isAlphanumeric c = true) : isKeycapBase c = c.isDigit := by
  have hdigit : (decide ('0' ≤ c) && decide (c ≤ '9')) = c.isDigit := rfl
  have hhash : c ≠ '#' := by
    rintro rfl
    exact absurd h (by decide)
  have hstar : c ≠ '*' := by
    rintro rfl
    exact absurd h (by decide)
  rw [isKeycapBase, hdigit, beq_false_of_ne hhash, beq_false_of_ne hstar, Bool.or_false,
    Bool.or_false]

theorem head?_any_isKeycapMark_iff :
    cs.head?.any isKeycapMark = true ↔ cs.head? = some '\ufe0f' ∨ cs.head? = some '\u20e3' := by
  cases cs <;> simp [isKeycapMark]

/-- The scan meets each character with the rest of the text behind it. -/
theorem onlySymbols_iff :
    onlySymbols cs = true ↔ ∀ a c r, cs = a ++ c :: r → isAlphanumeric c = true →
      c.isDigit = true ∧ (r.head? = some '\ufe0f' ∨ r.head? = some '\u20e3') := by
  induction cs with
  | nil => simp [onlySymbols]
  | cons d cs ih =>
    have hstep : (!isAlphanumeric d || isKeycapBase d && cs.head?.any isKeycapMark) = true ↔
        (isAlphanumeric d = true →
          d.isDigit = true ∧ (cs.head? = some '\ufe0f' ∨ cs.head? = some '\u20e3')) := by
      cases hd : isAlphanumeric d with
      | false => simp
      | true =>
        rw [isKeycapBase_eq hd, ← head?_any_isKeycapMark_iff]
        simp
    rw [onlySymbols, Bool.and_eq_true, hstep, ih]
    constructor
    · rintro ⟨hhere, hrest⟩ a c r he
      cases a with
      | nil =>
        obtain ⟨rfl, rfl⟩ := List.cons.inj he
        exact hhere
      | cons e a =>
        obtain ⟨-, rfl⟩ := List.cons.inj he
        exact hrest a c r rfl
    · intro h
      refine ⟨h [] d cs rfl, ?_⟩
      rintro a c r rfl
      exact h (d :: a) c r rfl

theorem isEmojiOnly_iff : isEmojiOnly cs = true ↔ IsSymbolic cs := by
  have hany : cs.any (127 < ·.toNat) = true ↔ ∃ c ∈ cs, 127 < c.toNat := by simp
  rw [isEmojiOnly, Bool.and_eq_true, onlySymbols_iff, hany]
  exact ⟨fun h => ⟨h.2, h.1⟩, fun h => ⟨h.keycaps, h.beyondAscii⟩⟩

/-! ### The stages up to the rule for emoji -/

theorem throughFirstMatch_concat {before : List Signal} (h : ∀ x ∈ before, x.isMatch = false)
    (hx : x.isMatch = true) : throughFirstMatch (before ++ [x]) = before ++ [x] := by
  induction before with
  | nil => simp [throughFirstMatch, hx]
  | cons y before ih =>
    obtain ⟨hy, hrest⟩ := List.forall_mem_cons.mp h
    simp [throughFirstMatch, hy, ih hrest]

theorem Stage.verdict?_eq_none (hs : s.decision = .firstMatch v)
    (h : ∀ x ∈ s.evaluate f k, x.isMatch = false) : s.verdict? (s.evaluate f k) = none := by
  simpa [verdict?, hs] using h

/-- Stages without a match and without a score only lengthen the trace. -/
theorem settle_append_of_unmatched
    (h : ∀ s ∈ earlier, s.scoresComplexity = false ∧ s.verdict? (s.evaluate f k) = none) :
    settle f (earlier ++ table) k =
      (earlier.flatMap (·.evaluate f k) ++ (settle f table k).1, (settle f table k).2) := by
  induction earlier with
  | nil => rfl
  | cons s earlier ih =>
    obtain ⟨⟨hscore, hnone⟩, hrest⟩ := List.forall_mem_cons.mp h
    have hafter : s.complexityAfter f k = k := by simp [Stage.complexityAfter, hscore]
    rw [List.cons_append, settle_cons_of_none hnone, hafter, ih hrest, List.flatMap_cons,
      List.append_assoc]

theorem Stage.evaluate_trivialPhrase : trivialPhrase.evaluate f k =
    (trivialPhrase.rules.take 4).map (·.signal f k) ++
      [⟨"emoji_only", 1.0, isEmojiOnly f.text⟩] := rfl

/-- No rule ahead of the one for emoji matches a message without letters. -/
theorem settle_of_emojiOnly (hletter : ¬ HasLetter f.lower) (htext : f.text ≠ [])
    (h : isEmojiOnly f.text = true) :
    ∃ before, settle f Stage.all 0 =
        (before ++ [⟨"emoji_only", 1.0, true⟩], ⟨.trivial, 0.95, "greeting or acknowledgement"⟩) ∧
      ∀ x ∈ before, x.isMatch = false := by
  have hblank : ∀ x ∈ Stage.blankMessage.evaluate f 0, x.isMatch = false := by
    simpa [Stage.blankMessage, Stage.evaluate, Rule.signal] using htext
  have hexplicit : ∀ x ∈ Stage.explicitModel.evaluate f 0, x.isMatch = false :=
    unmatched_of_seeksLetter seeksLetter_explicitModel hletter
  have hphrases := unmatched_of_seeksLetter (k := 0) seeksLetter_smallTalk hletter
  have hearlier : ∀ s ∈ [Stage.blankMessage, .explicitModel],
      s.scoresComplexity = false ∧ s.verdict? (s.evaluate f 0) = none := by
    rw [← List.forall_iff_forall_mem]
    exact ⟨⟨rfl, Stage.verdict?_eq_none rfl hblank⟩, rfl, Stage.verdict?_eq_none rfl hexplicit⟩
  have hevaluate := Stage.evaluate_trivialPhrase (f := f) (k := 0)
  rw [h] at hevaluate
  have hverdict : Stage.trivialPhrase.verdict? (Stage.trivialPhrase.evaluate f 0) =
      some ⟨.trivial, 0.95, "greeting or acknowledgement"⟩ := by
    rw [hevaluate]
    simp [Stage.verdict?, Stage.trivialPhrase]
  have htrace : Stage.trivialPhrase.trace (Stage.trivialPhrase.evaluate f 0) =
      (Stage.trivialPhrase.rules.take 4).map (·.signal f 0) ++ [⟨"emoji_only", 1.0, true⟩] :=
    (congrArg throughFirstMatch hevaluate).trans (throughFirstMatch_concat hphrases rfl)
  have hsettle : settle f ([.blankMessage, .explicitModel] ++ .trivialPhrase :: Stage.all.drop 3) 0 =
      _ := settle_append_of_unmatched hearlier
  rw [settle_cons_of_some hverdict, htrace, ← List.append_assoc] at hsettle
  refine ⟨_, hsettle, ?_⟩
  simp only [List.flatMap_cons, List.flatMap_nil, List.append_nil, List.forall_mem_append]
  exact ⟨⟨hblank, hexplicit⟩, hphrases⟩

/-! ### Symbols have no letters, and the trace tells of them -/

theorem IsSymbolic.isDigit (h : IsSymbolic cs) (hc : c ∈ cs) (halnum : isAlphanumeric c = true) :
    c.isDigit = true := by
  obtain ⟨a, r, rfl⟩ := List.append_of_mem hc
  exact (h.keycaps a c r rfl halnum).1

theorem IsSymbolic.not_hasLetter (h : IsSymbolic cs) : ¬ HasLetter (lowercase cs) := by
  intro hletter
  obtain ⟨c, hc, hfrom⟩ := hasLetter_of_lowercase hletter
  have hfacts : isAlphanumeric c = true ∧ c.isDigit = false := by
    rcases hfrom with halpha | rfl | rfl
    · obtain ⟨-, halnum, hbase⟩ := letter_facts halpha
      exact ⟨halnum, by rwa [isKeycapBase_eq halnum] at hbase⟩
    · exact ⟨by decide +kernel, rfl⟩
    · exact ⟨by decide +kernel, rfl⟩
  have hdigit := h.isDigit hc hfacts.1
  rw [hfacts.2] at hdigit
  contradiction

theorem exists_rule_of_mem_evaluateAll (h : x ∈ evaluateAll f table k) :
    ∃ r ∈ table.flatMap (·.rules), ∃ k', x = r.signal f k' := by
  induction table generalizing k with
  | nil => simp [evaluateAll] at h
  | cons s table ih =>
    rcases List.mem_append.mp h with hx | hx
    · obtain ⟨r, hr, rfl⟩ := List.mem_map.mp hx
      exact ⟨r, List.mem_append_left _ hr, k, rfl⟩
    · obtain ⟨r, hr, k', rfl⟩ := ih hx
      exact ⟨r, List.mem_append_right _ hr, k', rfl⟩

/-- Names are not used twice, so that a signal tells which rule it comes from. -/
theorem exists_signal_of_name (hx : x ∈ (classify m).signals)
    (hr : r ∈ Stage.all.flatMap (·.rules)) (hname : x.name = r.name) :
    ∃ k, x = r.signal (.ofMessage m) k := by
  have hmem : x ∈ evaluateAll (.ofMessage m) Stage.all 0 := settle_prefix_evaluateAll.subset hx
  obtain ⟨r', hr', k, rfl⟩ := exists_rule_of_mem_evaluateAll hmem
  have hnodup : ((Stage.all.flatMap (·.rules)).map (·.name)).Nodup := nodup_rule_names
  have hsame : r' = r := List.inj_on_of_nodup_map hnodup hr' hr hname
  exact ⟨k, by rw [hsame]⟩

/-- A message of symbols is trivial, by the rule for emoji alone, and that rule matches no other
message. -/
theorem emoji_rule_matches_symbols (m : String) :
    (IsSymbolic (trim m.toList) →
      (classify m).verdict = ⟨.trivial, 0.95, "greeting or acknowledgement"⟩ ∧
        ∃ before, (classify m).signals = before ++ [⟨"emoji_only", 1.0, true⟩] ∧
          ∀ x ∈ before, x.isMatch = false) ∧
      ∀ x ∈ (classify m).signals, x.name = "emoji_only" → x.isMatch = true →
        IsSymbolic (trim m.toList) := by
  constructor
  · intro h
    have htext : trim m.toList ≠ [] := by
      obtain ⟨c, hc, -⟩ := h.beyondAscii
      exact List.ne_nil_of_mem hc
    obtain ⟨before, hsettle, hbefore⟩ := settle_of_emojiOnly (f := .ofMessage m)
      h.not_hasLetter htext (isEmojiOnly_iff.mpr h)
    have hclamp : clampConfidence 0.95 = 0.95 := by decide
    have hclassify : classify m = ⟨.trivial, 0.95, "greeting or acknowledgement",
        before ++ [⟨"emoji_only", 1.0, true⟩]⟩ := by
      rw [classify, hsettle]
      simp only [hclamp]
    rw [hclassify]
    exact ⟨rfl, before, rfl, hbefore⟩
  · intro x hx hname hmatch
    have hr : (⟨"emoji_only", 1.0, .measure fun f _ => isEmojiOnly f.text⟩ : Rule) ∈
        Stage.all.flatMap (·.rules) := by simp [Stage.all, Stage.trivialPhrase]
    obtain ⟨k, rfl⟩ := exists_signal_of_name hx hr hname
    exact isEmojiOnly_iff.mp hmatch

/-- A keycap, a heart with its selector and a joined family, with blanks around them. -/
def keycapHeartFamily : String := " 1\ufe0f\u20e3 ❤\ufe0f\n👩\u200d👧 "

theorem emoji_rule_matches_symbols_keycap :
    IsSymbolic (trim keycapHeartFamily.toList) ∧
      (classify keycapHeartFamily).verdict = ⟨.trivial, 0.95, "greeting or acknowledgement"⟩ ∧
      ∃ x ∈ (classify keycapHeartFamily).signals, x.name = "emoji_only" ∧ x.isMatch = true ∧
        IsSymbolic (trim keycapHeartFamily.toList) := by
  obtain ⟨hmatched, honly⟩ := emoji_rule_matches_symbols keycapHeartFamily
  have hsymbols : IsSymbolic (trim keycapHeartFamily.toList) :=
    isEmojiOnly_iff.mp (by decide +kernel)
  obtain ⟨hverdict, before, hsignals, -⟩ := hmatched hsymbols
  have hlast : (⟨"emoji_only", 1.0, true⟩ : Signal) ∈ (classify keycapHeartFamily).signals := by
    rw [hsignals]
    simp
  exact ⟨hsymbols, hverdict, _, hlast, rfl, rfl, honly _ hlast rfl rfl⟩

end TierRouting
