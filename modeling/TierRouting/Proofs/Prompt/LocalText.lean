import TierRouting.Proofs.Prompt.LocalLines

/-! The text that a local model is given of a prompt without boilerplate: whole sections of it. -/
namespace TierRouting.Prompt

open Text

variable {found : Bool} {state : Option Fence} {ls : List Line} {prompt : List Char}
  {title : Option (List Char)} {s : Section} {S : List Section}

/-- A topic counts as whole words, which single spaces part in a normalized title. -/
def NamesTopic (u : List Char) : Prop :=
  ∃ topic ∈ coreTopics, splitAt ' ' topic.toList <:+: splitAt ' ' u

instance (u : List Char) : Decidable (NamesTopic u) :=
  inferInstanceAs (Decidable (∃ topic ∈ coreTopics, splitAt ' ' topic.toList <:+: splitAt ' ' u))

namespace Section

def NamesTopic (s : Section) : Prop := ∃ u ∈ s.title, Prompt.NamesTopic u

instance (s : Section) : Decidable s.NamesTopic :=
  inferInstanceAs (Decidable (∃ u ∈ s.title, Prompt.NamesTopic u))

/-- The section less its blank lines. -/
def withText (s : Section) : Section := { s with lines := textLines s.lines }

end Section

/-- The sections that are not about tools and upkeep. -/
def userSections (prompt : List Char) : List Section :=
  (sections prompt).filter fun s => ¬ s.IsOperational

/-- These sections as a text, with its runs of blank lines shrunk. -/
def userText (prompt : List Char) : List Char :=
  collapseBlank (unlines ((userSections prompt).flatMap (·.lines)))

/-- The first section with text, and of those behind it the ones that name a core topic. -/
def persona (S : List Section) : List Section :=
  match S.dropWhile (!·.hasText) with
  | [] => []
  | s :: r => s :: r.filter fun s => s.NamesTopic

/-- What a local model is given: all user sections, or of a long text the persona. -/
def localSections (prompt : List Char) : List Section :=
  if (userText prompt).length ≤ 3200 then userSections prompt else persona (userSections prompt)

theorem isCoreTopic_iff {u : List Char} : isCoreTopic u = true ↔ NamesTopic u := by
  simp only [NamesTopic, isCoreTopic, List.any_eq_true, occursIn_iff, infix_between_iff]

theorem isCore_iff : s.isCore = true ↔ s.NamesTopic := by
  rw [Section.isCore, Option.any_eq_true]
  simp only [Section.NamesTopic, isCoreTopic_iff, Option.mem_def]

theorem hasText_withText : s.withText.hasText = s.hasText := by
  simp only [Section.hasText, Section.withText, textLines, List.any_filter, Bool.and_self]

theorem keepCore_withText (found : Bool) (S : List Section) :
    keepCore found (S.map Section.withText) = (keepCore found S).map Section.withText := by
  induction S generalizing found with
  | nil => rfl
  | cons s S ih =>
    have hcore : s.withText.isCore = s.isCore := rfl
    rw [List.map_cons, keepCore, keepCore, hasText_withText, hcore, ih]
    split <;> rfl

theorem flatMap_lines_withText (S : List Section) :
    (S.map Section.withText).flatMap (·.lines) = textLines (S.flatMap (·.lines)) := by
  rw [List.flatMap_map, textLines, List.filter_flatMap]
  rfl

/-- The core sections of a list, as the texts show it, are its persona. -/
theorem textLines_keepCore (S : List Section) :
    textLines ((keepCore false S).flatMap (·.lines)) =
      textLines ((persona S).flatMap (·.lines)) := by
  have htopics : ∀ S, keepCore true S = S.filter fun s => s.NamesTopic := by
    intro S
    induction S with
    | nil => rfl
    | cons s S ih => by_cases hs : s.NamesTopic <;> simp [keepCore, isCore_iff, hs, ih]
  induction S with
  | nil => rfl
  | cons s S ih =>
    cases hs : s.hasText with
    | true => simp [keepCore, persona, hs, htopics]
    | false =>
      have hblank : textLines s.lines = [] := by
        simpa [Section.hasText, textLines, List.filter_eq_nil_iff] using hs
      have hrest : persona (s :: S) = persona S := by simp [persona, hs]
      rw [hrest, ← ih, keepCore, hs]
      split
      · rw [List.flatMap_cons, textLines_append, hblank, List.nil_append]
        rfl
      · rfl

/-- Blank lines are only carried along by the scan for sections. -/
theorem sectionsFrom_textLines (title : Option (List Char)) (state : Option Fence)
    (ls : List Line) :
    (sectionsFrom title (markHeaders state ls)).map Section.withText =
      (sectionsFrom title (markHeaders state (textLines ls))).map Section.withText := by
  induction ls generalizing title state with
  | nil => rfl
  | cons l ls ih =>
    cases hl : allBlank l with
    | true =>
      obtain ⟨ks, S, hs⟩ := exists_sectionsFrom title (markHeaders state ls)
      rw [textLines_cons_of_blank hl, ← ih, markHeaders_cons, step_of_blank hl, sectionsFrom, hs,
        addToFirst, List.map_cons, List.map_cons]
      simp [Section.withText, textLines_cons_of_blank hl]
    | false =>
      have hadd : ∀ S, (addToFirst l S).map Section.withText =
          addToFirst l (S.map Section.withText) := by
        intro S
        cases S with
        | nil => rfl
        | cons s S => simp [addToFirst, Section.withText, textLines_cons_of_not_blank hl]
      rw [textLines_cons_of_not_blank hl, markHeaders_cons, markHeaders_cons]
      cases (step state l).2 with
      | none => rw [sectionsFrom, sectionsFrom, hadd, hadd, ih]
      | some t => rw [sectionsFrom, sectionsFrom, List.map_cons, List.map_cons, hadd, hadd, ih]

theorem keptLines_eq_userSections (prompt : List Char) :
    keptLines true (markHeaders none (lines prompt)) =
      (userSections prompt).flatMap (·.lines) := by
  obtain ⟨K, -, hl, hs⟩ := exists_selected_keptLines (markHeaders none (lines prompt))
  rw [← hl, userSections, sections, ← hs, flatMap_lines_sectionsFrom]

/-- A scan of the user sections alone finds them again. -/
theorem sections_of_userSections (prompt : List Char) :
    sectionsFrom none (markHeaders none ((userSections prompt).flatMap (·.lines))) =
      userSections prompt := by
  obtain ⟨K, hK, hl, hs⟩ := exists_selected_keptLines (markHeaders none (lines prompt))
  have hm : markHeaders none (K.map (·.2)) = K := markHeaders_selected hK rfl
  rw [← keptLines_eq_userSections, ← hl, hm, hs]
  rfl

theorem newline_not_mem_userSections (prompt : List Char) :
    ∀ l ∈ (userSections prompt).flatMap (·.lines), '\n' ∉ l := by
  rw [← keptLines_eq_userSections]
  exact newline_not_mem_keptLines prompt

/-- The user text has the user sections, less some blank lines. -/
theorem sections_userText (prompt : List Char) :
    (sections (userText prompt)).map Section.withText =
      (userSections prompt).map Section.withText := by
  have htext : textLines (lines (userText prompt)) =
      textLines ((userSections prompt).flatMap (·.lines)) := by
    rw [userText, lines_collapseBlank, textLines_collapseFrom,
      textLines_unlines (newline_not_mem_userSections prompt)]
  rw [sections, sectionsFrom_textLines, htext, ← sectionsFrom_textLines, sections_of_userSections]

/-- Whatever the prompt, its lines with text come out in order, and the suffix behind them. -/
theorem textLines_forLocal (prompt : List Char) :
    textLines (lines (forLocal prompt)) =
      trimLast (textLines (localLines prompt)) ++ [conciseSuffix.toList] := by
  have hbody : textLines (lines (localBody prompt)) = trimLast (textLines (localLines prompt)) := by
    have hlines := textLines_unlines (newline_not_mem_localLines prompt)
    rw [localBody_eq, textLines_trimEnd]
    split
    · rw [lines_collapseBlank, textLines_collapseFrom, hlines]
    · rw [hlines]
  have hsuffix : textLines [conciseSuffix.toList] = [conciseSuffix.toList] :=
    textLines_cons_of_not_blank (by decide +kernel)
  rw [← hbody, forLocal]
  cases hb : localBody prompt with
  | nil => exact (congrArg textLines lines_suffix).trans hsuffix
  | cons c r =>
    simp only [List.isEmpty_cons, Bool.false_eq_true, if_false]
    rw [lines_append_suffix, textLines_append, textLines_cons_of_blank allBlank_nil, hsuffix]

section Clean

variable (hclean : ∀ p ∈ phrases, ¬ p <:+: prompt)
include hclean

theorem bareLines_of_clean : bareLines prompt = (userSections prompt).flatMap (·.lines) := by
  have hline : ∀ l ∈ keptLines true (markHeaders none (lines prompt)), dropBoilerplate l = l := by
    intro l hl
    obtain ⟨K, hK, hKl, -⟩ := exists_selected_keptLines (markHeaders none (lines prompt))
    have hmem : l ∈ lines prompt := by
      rw [← hKl] at hl
      have hm := (hK.sublist.map (·.2)).subset hl
      rwa [map_snd_markHeaders] at hm
    rw [dropBoilerplate_eq]
    apply eraseAll_eq_self
    intro p hp hinfix
    apply hclean p hp
    rw [← unlines_lines prompt, infix_unlines_iff (phrase_ne_nil p hp).1 (phrase_ne_nil p hp).2]
    exact ⟨l, hmem, hinfix⟩
  rw [bareLines, List.map_congr_left hline, List.map_id', keptLines_eq_userSections]

theorem length_userText_le_iff : (userText prompt).length ≤ 3200 ↔ ¬ IsOversized prompt := by
  rw [IsOversized, shrunkLines, bareLines_of_clean hclean, userText,
    collapseBlank_unlines (newline_not_mem_userSections prompt), Nat.not_lt]
  rfl

theorem textLines_localLines :
    textLines (localLines prompt) = textLines ((localSections prompt).flatMap (·.lines)) := by
  have hshrunk : textLines (shrunkLines prompt) =
      textLines ((userSections prompt).flatMap (·.lines)) := by
    rw [shrunkLines, textLines_collapseFrom, bareLines_of_clean hclean]
  by_cases hlong : IsOversized prompt
  · have hsections : (sectionsFrom none (markHeaders none (shrunkLines prompt))).map
        Section.withText = (userSections prompt).map Section.withText := by
      rw [sectionsFrom_textLines, hshrunk, ← sectionsFrom_textLines, sections_of_userSections]
    have hlength : ¬ (userText prompt).length ≤ 3200 :=
      fun h => (length_userText_le_iff hclean).mp h hlong
    rw [localLines, if_pos hlong, localSections, if_neg hlength, ← textLines_keepCore,
      ← flatMap_lines_withText, personaSections, ← keepCore_withText, hsections,
      keepCore_withText, flatMap_lines_withText]
  · have hlength : (userText prompt).length ≤ 3200 := (length_userText_le_iff hclean).mpr hlong
    rw [localLines, if_neg hlong, localSections, if_pos hlength, hshrunk]

end Clean

/-- The sections make up the prompt, and the user text has those of them that are not operational.
A local model is given the lines with text of these or of their persona, and the suffix. -/
theorem local_prompt_text_lines (prompt : String)
    (hclean : ∀ phrase ∈ boilerplate, ¬ phrase.toList <:+: prompt.toList) :
    (sections prompt.toList).flatMap (·.lines) = lines prompt.toList ∧
      (sections (userText prompt.toList)).map Section.withText =
        (userSections prompt.toList).map Section.withText ∧
      ∃ out, (adapt prompt .t1).systemPrompt = some out ∧
        textLines (lines out.toList) =
          trimLast (textLines ((localSections prompt.toList).flatMap (·.lines))) ++
            [conciseSuffix.toList] := by
  have hphrases : ∀ p ∈ phrases, ¬ p <:+: prompt.toList := by
    intro p hp
    obtain ⟨phrase, hphrase, rfl⟩ := List.mem_map.mp hp
    exact hclean phrase hphrase
  refine ⟨?_, sections_userText prompt.toList, _, rfl, ?_⟩
  · rw [sections, flatMap_lines_sectionsFrom, map_snd_markHeaders]
  · rw [String.toList_ofList, textLines_forLocal, textLines_localLines hphrases]

def fencedPrompt : String :=
  "Be Sam.\n\n\n# Role\n```\n# Tools\n``` \n# Tools\nsearch\n# Memory?\nNone\n"

/-- A header inside a block is text of the section around it. -/
theorem local_prompt_text_lines_fenced :
    (∀ phrase ∈ boilerplate, ¬ phrase.toList <:+: fencedPrompt.toList) ∧
      ∃ out, (adapt fencedPrompt .t1).systemPrompt = some out ∧
        textLines (lines out.toList) =
          ["Be Sam.", "# Role", "```", "# Tools", "```", conciseSuffix].map String.toList := by
  have hclean : ∀ phrase ∈ boilerplate, ¬ phrase.toList <:+: fencedPrompt.toList := by
    decide +kernel
  obtain ⟨-, -, out, hout, hlines⟩ := local_prompt_text_lines fencedPrompt hclean
  exact ⟨hclean, out, hout, hlines.trans (by decide +kernel)⟩

end TierRouting.Prompt
