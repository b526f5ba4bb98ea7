import TierRouting.Proofs.Signal.SmallTalk
import TierRouting.Proofs.Text.CaseFolding

/-! The case of ASCII letters and the blanks around a message make no difference to what it asks
for. -/
namespace TierRouting

open Text

variable {f g : Features} {r : Rule} {m n : String}

/-- What the rules see of two messages that differ in the case of ASCII letters. -/
structure Features.Alike (f g : Features) : Prop where
  text : foldCase f.text = foldCase g.text
  lower : f.lower = g.lower
  words : f.words = g.words
  questionMarks : f.questionMarks = g.questionMarks

/-- What does not see the case of ASCII letters does not tell texts apart that differ in it. -/
theorem eq_of_foldCase_eq {α : Type} (view : List Char → α)
    (hview : ∀ cs, view (foldCase cs) = view cs) {cs ds : List Char}
    (h : foldCase cs = foldCase ds) : view cs = view ds := by
  rw [← hview cs, h, hview]

theorem alike_ofMessage (h : foldCase (trim m.toList) = foldCase (trim n.toList)) :
    (Features.ofMessage m).Alike (.ofMessage n) where
  text := h
  lower := eq_of_foldCase_eq lowercase lowercase_foldCase h
  words := eq_of_foldCase_eq (fun cs => (words cs).length) length_words_foldCase h
  questionMarks := eq_of_foldCase_eq (List.count '?') (count_foldCase (by decide)) h

theorem isKeycapMark_toLower (c : Char) : isKeycapMark c.toLower = isKeycapMark c := by
  have hselector : c.toLower = '\ufe0f' ↔ c = '\ufe0f' := toLower_eq_iff rfl
  have hkeycap : c.toLower = '\u20e3' ↔ c = '\u20e3' := toLower_eq_iff rfl
  rw [Bool.eq_iff_iff]
  simp only [isKeycapMark, Bool.or_eq_true, beq_iff_eq, hselector, hkeycap]

theorem onlySymbols_foldCase (cs : List Char) : onlySymbols (foldCase cs) = onlySymbols cs := by
  induction cs with
  | nil => rfl
  | cons c r ih =>
    have hmark : (foldCase r).head?.any isKeycapMark = r.head?.any isKeycapMark := by
      cases r with
      | nil => rfl
      | cons d r => exact isKeycapMark_toLower d
    have hcons : foldCase (c :: r) = c.toLower :: foldCase r := rfl
    rw [hcons, onlySymbols, onlySymbols, ih, hmark]
    cases hc : c.isAlpha with
    | false => rw [toLower_eq_self hc]
    | true =>
      obtain ⟨-, halnum, hbase⟩ := letter_facts hc
      obtain ⟨-, halnum', hbase'⟩ := letter_facts ((Char.isAlpha_toLower_eq_isAlpha c).trans hc)
      rw [halnum, hbase, halnum', hbase']

theorem isEmojiOnly_foldCase (cs : List Char) : isEmojiOnly (foldCase cs) = isEmojiOnly cs := by
  have hbeyond : (fun c : Char => decide (127 < c.toNat)) ∘ Char.toLower =
      fun c => decide (127 < c.toNat) := by
    funext c
    have hc := (sameClasses_toLower c).ascii
    have hiff : 127 < c.toLower.toNat ↔ 127 < c.toNat := by omega
    exact decide_eq_decide.mpr hiff
  rw [isEmojiOnly, onlySymbols_foldCase, foldCase, List.any_map, hbeyond, isEmojiOnly]

/-- The rule does not see the case of ASCII letters. -/
def Rule.CaseBlind (r : Rule) : Prop := ∀ f g k, Features.Alike f g → r.signal f k = r.signal g k

def Test.measure? : Test → Option (Features → Float32 → Bool)
  | phrase _ => none
  | measure holds => some holds

/-- The measures of the table, in its order: each reads lengths, counts or signs. -/
theorem measures_caseBlind : ∀ holds ∈ (Stage.all.flatMap (·.rules)).filterMap (·.test.measure?),
    ∀ f g k, Features.Alike f g → holds f k = holds g k := by
  have hlength : ∀ cs, (foldCase cs).length = cs.length := fun cs => List.length_map ..
  have hempty : ∀ cs, (foldCase cs).isEmpty = cs.isEmpty := fun cs => List.isEmpty_map
  have hcode : ∀ d ∈ "\x60\x60\x60".toList, d.isAlpha = false := by simp
  rw [← List.forall_iff_forall_mem]
  refine ⟨?blank, ?emojiOnly, ?short, ?over100, ?over50, ?code, ?questions, ?plain, ?undecided⟩
  case blank =>
    intro f g k h
    exact eq_of_foldCase_eq List.isEmpty hempty h.text
  case emojiOnly =>
    intro f g k h
    exact eq_of_foldCase_eq isEmojiOnly isEmojiOnly_foldCase h.text
  case short =>
    intro f g k h
    dsimp only
    rw [eq_of_foldCase_eq List.length hlength h.text, h.questionMarks]
  case over100 =>
    intro f g k h
    dsimp only
    rw [h.words]
  case over50 =>
    intro f g k h
    dsimp only
    rw [h.words]
  case code =>
    intro f g k h
    exact eq_of_foldCase_eq _ (occursIn_foldCase hcode) h.text
  case questions =>
    intro f g k h
    dsimp only
    rw [h.questionMarks]
  case plain =>
    intro f g k h
    dsimp only
    rw [h.words]
  case undecided => exact fun f g k h => rfl

theorem caseBlind_of_mem {s : Stage} (hs : s ∈ Stage.all) (hr : r ∈ s.rules) : r.CaseBlind := by
  intro f g k h
  unfold Rule.signal
  cases htest : r.test with
  | phrase p =>
    dsimp only
    rw [h.lower]
  | measure holds =>
    have hmem : r ∈ Stage.all.flatMap (·.rules) := List.mem_flatMap.mpr ⟨s, hs, hr⟩
    have hmeasure := measures_caseBlind holds
      (List.mem_filterMap.mpr ⟨r, hmem, by rw [htest]; rfl⟩)
    dsimp only
    rw [hmeasure f g k h]

theorem settle_eq_of_alike (h : f.Alike g) {table : List Stage}
    (htable : ∀ s ∈ table, ∀ r ∈ s.rules, r.CaseBlind) (k : Float32) :
    settle f table k = settle g table k := by
  induction table generalizing k with
  | nil => rfl
  | cons s table ih =>
    obtain ⟨hs, htable⟩ := List.forall_mem_cons.mp htable
    have hsignals : s.evaluate f k = s.evaluate g k :=
      List.map_congr_left fun r hr => hs r hr f g k h
    rw [settle, settle, hsignals]
    simp only [ih htable]

/-- Two messages that differ in the case of ASCII letters and in the blanks around them ask for the
same, and the same rules say so. -/
theorem classify_eq_of_same_letters (h : foldCase (trim m.toList) = foldCase (trim n.toList)) :
    classify m = classify n := by
  have hsettled := settle_eq_of_alike (alike_ofMessage h)
    (fun s hs r hr => caseBlind_of_mem hs hr) 0
  rw [classify, classify, hsettled]

/-- The last sigma of each word is final beside a letter of either case. -/
theorem classify_eq_of_same_letters_sigma :
    let m := "\u00a0What Is a ΣΟΦΟΣ, AΣ or ΣB?\n"
    let n := "wHAT iS A ΣΟΦΟΣ, aΣ OR Σb?"
    foldCase (trim m.toList) = foldCase (trim n.toList) ∧ classify m = classify n := by
  have h : foldCase (trim "\u00a0What Is a ΣΟΦΟΣ, AΣ or ΣB?\n".toList) =
      foldCase (trim "wHAT iS A ΣΟΦΟΣ, aΣ OR Σb?".toList) := by decide +kernel
  exact ⟨h, classify_eq_of_same_letters h⟩

end TierRouting
