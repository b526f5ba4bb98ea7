import Mathlib.Data.List.Chain
import TierRouting.Proofs.Prompt.LocalLines

/-! Blank lines in the shortened prompts: never two in a row, and one before the suffix. -/
namespace TierRouting.Prompt

open Text

variable {inRun : Bool} {l : Line} {ls : List Line} {c : Char} {b cs text prompt : List Char}

/-- Of two lines in a row, one has text. -/
def NoBlankPair (ls : List Line) : Prop :=
  ls.IsChain fun a b => ¬ (allBlank a = true ∧ allBlank b = true)

theorem noBlankPair_cons_of_not_blank (h : allBlank l = false) :
    NoBlankPair (l :: ls) ↔ NoBlankPair ls := by
  simp [NoBlankPair, List.isChain_cons, h]

theorem noBlankPair_cons_of_blank (h : allBlank l = true) :
    NoBlankPair (l :: ls) ↔ ls.head?.any allBlank = false ∧ NoBlankPair ls := by
  cases ls <;> simp [NoBlankPair, List.isChain_cons, h]

/-- A run that has begun lets no blank line through, and a new one lets one through. -/
theorem noBlankPair_collapseFrom (inRun : Bool) (ls : List Line) :
    NoBlankPair (collapseFrom inRun ls) ∧
      (inRun = true → (collapseFrom inRun ls).head?.any allBlank = false) := by
  induction ls generalizing inRun with
  | nil => exact ⟨.nil, fun _ => rfl⟩
  | cons l r ih =>
    cases hl : allBlank l with
    | false =>
      rw [collapseFrom_cons_of_not_blank hl, noBlankPair_cons_of_not_blank hl]
      exact ⟨(ih false).1, fun _ => hl⟩
    | true =>
      obtain ⟨hpair, hhead⟩ := ih true
      cases inRun with
      | true => simpa [collapseFrom, hl] using ih true
      | false =>
        rcases collapseFrom_cons_of_blank false r hl with e | ⟨k, hk, e⟩
        · rw [e]
          exact ⟨hpair, fun h => absurd h Bool.false_ne_true⟩
        · have hkb : allBlank k = true := by rcases hk with rfl | rfl <;> simp [hl]
          rw [e, noBlankPair_cons_of_blank hkb]
          exact ⟨⟨hhead rfl, hpair⟩, fun h => absurd h Bool.false_ne_true⟩

theorem noBlankPair_lines_collapseBlank (text : List Char) :
    NoBlankPair (lines (collapseBlank text)) := by
  rw [lines_collapseBlank]
  exact (noBlankPair_collapseFrom false _).1

theorem collapseFrom_eq_self (h : NoBlankPair ls)
    (hrun : inRun = true → ls.head?.any allBlank = false) : collapseFrom inRun ls = ls := by
  induction ls generalizing inRun with
  | nil => rfl
  | cons l r ih =>
    cases hl : allBlank l with
    | false =>
      rw [noBlankPair_cons_of_not_blank hl] at h
      rw [collapseFrom_cons_of_not_blank hl, ih h (by simp)]
    | true =>
      obtain ⟨hhead, hrest⟩ := (noBlankPair_cons_of_blank hl).mp h
      have hnot : inRun = false := by
        cases inRun with
        | false => rfl
        | true => simpa [hl] using hrun rfl
      simp [collapseFrom, hl, hnot, hhead, ih hrest]

theorem collapseBlank_eq_self_iff : collapseBlank text = text ↔ NoBlankPair (lines text) := by
  constructor
  · intro h
    rw [← h]
    exact noBlankPair_lines_collapseBlank text
  · intro h
    rw [collapseBlank, collapseFrom_eq_self h (by simp), unlines_lines]

/-- Trimming may only shorten the line at the end of a text that stays. -/
theorem noBlankPair_lines_of_concat (hc : isBlank c = true) (h : NoBlankPair (lines (cs ++ [c]))) :
    NoBlankPair (lines cs) := by
  by_cases hn : c = '\n'
  · subst hn
    have hl : lines (cs ++ ['\n']) = lines cs ++ [[]] := splitAt_append_sep
    rw [hl] at h
    exact h.left_of_append
  · obtain ⟨ks, k, hk, hkc⟩ := splitAt_concat_of_ne cs hn
    rw [lines, hkc] at h
    rw [lines, hk]
    simpa [NoBlankPair, List.isChain_append, hc] using h

theorem noBlankPair_lines_of_append (hb : allBlank b = true)
    (h : NoBlankPair (lines (cs ++ b))) : NoBlankPair (lines cs) := by
  induction b generalizing cs with
  | nil => simpa using h
  | cons c b ih =>
    rw [allBlank_cons, Bool.and_eq_true] at hb
    rw [List.append_cons] at h
    exact noBlankPair_lines_of_concat hb.1 (ih hb.2 h)

theorem noBlankPair_lines_trimEnd (h : NoBlankPair (lines cs)) :
    NoBlankPair (lines (trimEnd cs)) := by
  obtain ⟨b, hb, he⟩ := exists_append_trimEnd cs
  rw [he] at h
  exact noBlankPair_lines_of_append hb h

/-- Three line ends in a row would enclose two empty lines. -/
theorem not_infix_of_noBlankPair (h : NoBlankPair (lines cs)) : ¬ "\n\n\n".toList <:+: cs := by
  rintro ⟨x, y, rfl⟩
  have hlines : lines (x ++ "\n\n\n".toList ++ y) = lines x ++ [] :: [] :: lines y := by
    have hx : x ++ "\n\n\n".toList ++ y = x ++ '\n' :: '\n' :: '\n' :: y := by simp
    rw [hx, lines, splitAt_append_sep, splitAt_cons_self, splitAt_cons_self]
    rfl
  rw [hlines] at h
  exact List.isChain_cons_cons.mp h.right_of_append |>.1 ⟨rfl, rfl⟩

/-- However much is removed, blank runs are shrunk last, and then the end is trimmed. -/
theorem noBlankPair_lines_localBody (prompt : List Char) :
    NoBlankPair (lines (localBody prompt)) := by
  apply noBlankPair_lines_trimEnd
  split
  · exact noBlankPair_lines_collapseBlank _
  · exact noBlankPair_lines_collapseBlank _

theorem exists_lines_localBody (h : localBody prompt ≠ []) :
    ∃ ks l, lines (localBody prompt) = ks ++ [l] ∧ allBlank l = false := by
  rcases trimEnd_eq_nil_or_concat _ with hnil | ⟨a, c, hbody, hc⟩
  · exact absurd hnil h
  · have hn : c ≠ '\n' := by
      rintro rfl
      exact absurd hc (by decide)
    obtain ⟨ks, k, -, hkc⟩ := splitAt_concat_of_ne a hn
    refine ⟨ks, k ++ [c], ?_, by simp [hc]⟩
    rw [localBody, hbody]
    exact hkc

/-- The lines of a prompt for a local model: the suffix, set off from any text before it. -/
theorem lines_forLocal_cases (prompt : List Char) :
    forLocal prompt = conciseSuffix.toList ∨
      ∃ ks l, lines (localBody prompt) = ks ++ [l] ∧ allBlank l = false ∧
        forLocal prompt = localBody prompt ++ '\n' :: '\n' :: conciseSuffix.toList ∧
        lines (forLocal prompt) = ks ++ [l, [], conciseSuffix.toList] := by
  by_cases hb : localBody prompt = []
  · left
    simp [forLocal, hb]
  · right
    obtain ⟨ks, l, hlines, hl⟩ := exists_lines_localBody hb
    have hout : forLocal prompt = localBody prompt ++ '\n' :: '\n' :: conciseSuffix.toList := by
      simp [forLocal, hb]
    refine ⟨ks, l, hlines, hl, hout, ?_⟩
    rw [hout, lines_append_suffix, hlines, List.append_assoc]
    rfl

theorem noBlankPair_lines_forLocal (prompt : List Char) :
    NoBlankPair (lines (forLocal prompt)) := by
  have hsuffix : allBlank conciseSuffix.toList = false := by decide +kernel
  rcases lines_forLocal_cases prompt with h | ⟨ks, l, hbody, hl, -, hlines⟩
  · rw [h, lines_suffix]
    exact .singleton _
  · have hpair : NoBlankPair (ks ++ [l]) := hbody ▸ noBlankPair_lines_localBody prompt
    have hend : NoBlankPair [l, [], conciseSuffix.toList] := by
      rw [noBlankPair_cons_of_not_blank hl, noBlankPair_cons_of_blank allBlank_nil]
      exact ⟨hsuffix, .singleton _⟩
    rw [hlines]
    exact List.isChain_split.mpr ⟨hpair, hend⟩

/-- A shortened prompt has no two blank lines in a row, and a local model's ends in the suffix,
alone or behind one empty line and a line with text. -/
theorem blank_runs_shrunk (prompt : String) :
    (∃ out, (adapt prompt .t2).systemPrompt = some out ∧ NoBlankPair (lines out.toList) ∧
      ¬ "\n\n\n".toList <:+: out.toList) ∧
    ∃ out, (adapt prompt .t1).systemPrompt = some out ∧ NoBlankPair (lines out.toList) ∧
      ¬ "\n\n\n".toList <:+: out.toList ∧ conciseSuffix.toList <:+ out.toList ∧
      (out = conciseSuffix ∨
        ∃ body last, lines out.toList = body ++ [last, [], conciseSuffix.toList] ∧
          allBlank last = false) := by
  have hfast := noBlankPair_lines_collapseBlank (dropBoilerplate prompt.toList)
  have hlocal := noBlankPair_lines_forLocal prompt.toList
  refine ⟨⟨_, rfl, ?_⟩, _, rfl, ?_⟩
  · rw [String.toList_ofList]
    exact ⟨hfast, not_infix_of_noBlankPair hfast⟩
  · rw [String.toList_ofList]
    refine ⟨hlocal, not_infix_of_noBlankPair hlocal, ?_⟩
    rcases lines_forLocal_cases prompt.toList with h | ⟨ks, l, -, hl, hout, hlines⟩
    · rw [h, String.ofList_toList]
      exact ⟨List.suffix_rfl, Or.inl rfl⟩
    · refine ⟨?_, Or.inr ⟨ks, l, hlines, hl⟩⟩
      rw [hout]
      exact ⟨localBody prompt.toList ++ ['\n', '\n'], by simp⟩

end TierRouting.Prompt
