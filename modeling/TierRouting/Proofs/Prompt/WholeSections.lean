import TierRouting.Proofs.Prompt.LocalText

/-! Sections are dropped as a whole, and what is kept of a prompt is read as it was before. -/
namespace TierRouting.Prompt

open Text

/-- How a scan reads a line: the block that is open before it, and its title if it is a header. -/
structure Reading where
  block : Option Fence
  title : Option (List Char)
  line : Line
deriving DecidableEq

def readings : Option Fence → List Line → List Reading
  | _, [] => []
  | state, l :: r => ⟨state, (step state l).2, l⟩ :: readings (step state l).1 r

namespace Section

/-- The section read by itself. -/
def readings (s : Section) : List Reading := Prompt.readings none s.lines

/-- No block is left open behind the section. -/
def Closed (s : Section) : Prop := stateAfter none s.lines = none

end Section

variable {state : Option Fence} {ls ks : List Line} {prompt : List Char}
  {title : Option (List Char)} {s : Section} {S T : List Section}

theorem readings_append :
    readings state (ls ++ ks) = readings state ls ++ readings (stateAfter state ls) ks := by
  induction ls generalizing state with
  | nil => rfl
  | cons l ls ih =>
    rw [List.cons_append, readings, readings, ih]
    rfl

/-- A header ends the section before it, and no header stands in a block. -/
theorem closed_sectionsFrom (hs : sectionsFrom title (markHeaders state ls) = s :: S) :
    (S ≠ [] → stateAfter state s.lines = none) ∧ S.Pairwise fun s _ => s.Closed := by
  induction ls generalizing title state s S with
  | nil =>
    obtain ⟨rfl, rfl⟩ := List.cons.inj hs
    exact ⟨fun h => absurd rfl h, .nil⟩
  | cons l ls ih =>
    rw [markHeaders_cons] at hs
    cases ht : (step state l).2 with
    | none =>
      obtain ⟨ks, R, hR⟩ := exists_sectionsFrom title (markHeaders (step state l).1 ls)
      rw [ht, sectionsFrom, hR] at hs
      obtain ⟨rfl, rfl⟩ := List.cons.inj hs
      obtain ⟨hfirst, hrest⟩ := ih hR
      exact ⟨hfirst, hrest⟩
    | some t =>
      obtain ⟨ks, R, hR⟩ :=
        exists_sectionsFrom (some (normalizeTitle t)) (markHeaders (step state l).1 ls)
      rw [ht, sectionsFrom, hR] at hs
      obtain ⟨rfl, rfl⟩ := List.cons.inj hs
      obtain ⟨rfl, -⟩ := step_eq_of_title ht
      obtain ⟨hfirst, hrest⟩ := ih hR
      refine ⟨fun _ => rfl, List.pairwise_cons.mpr ⟨?_, hrest⟩⟩
      intro r hr
      exact hfirst (List.ne_nil_of_mem hr)

/-- A block that is never closed reaches through the last section only. -/
theorem closed_sections (prompt : List Char) :
    (sections prompt).Pairwise fun s _ => s.Closed := by
  obtain ⟨ks, S, hs⟩ := exists_sectionsFrom none (markHeaders none (lines prompt))
  obtain ⟨hfirst, hrest⟩ := closed_sectionsFrom hs
  rw [sections, hs, List.pairwise_cons]
  exact ⟨fun r hr => hfirst (List.ne_nil_of_mem hr), hrest⟩

theorem readings_of_closed (hT : T.Pairwise fun s _ => s.Closed) :
    readings none (T.flatMap (·.lines)) = T.flatMap (·.readings) := by
  induction T with
  | nil => rfl
  | cons s T ih =>
    obtain ⟨hs, hT⟩ := List.pairwise_cons.mp hT
    rw [List.flatMap_cons, List.flatMap_cons, readings_append, ← ih hT]
    cases T with
    | nil => rfl
    | cons r T =>
      have hclosed : stateAfter none s.lines = none := hs r List.mem_cons_self
      rw [hclosed]
      rfl

theorem flatMap_lines_sections (prompt : List Char) :
    (sections prompt).flatMap (·.lines) = lines prompt := by
  rw [sections, flatMap_lines_sectionsFrom, map_snd_markHeaders]

/-- Only the first section has no title. -/
theorem titled_sectionsFrom (title : Option (List Char)) (M : Marked) :
    ∃ ks S, sectionsFrom title M = ⟨title, ks⟩ :: S ∧ ∀ s ∈ S, s.title ≠ none := by
  induction M generalizing title with
  | nil => exact ⟨[], [], rfl, fun s hs => absurd hs List.not_mem_nil⟩
  | cons m M ih =>
    obtain ⟨t, l⟩ := m
    cases t with
    | none =>
      obtain ⟨ks, S, hs, htitles⟩ := ih title
      exact ⟨l :: ks, S, by rw [sectionsFrom, hs]; rfl, htitles⟩
    | some t =>
      obtain ⟨ks, S, hs, htitles⟩ := ih (some (normalizeTitle t))
      refine ⟨[], ⟨some (normalizeTitle t), l :: ks⟩ :: S, by rw [sectionsFrom, hs]; rfl, ?_⟩
      intro s hmem
      rcases List.mem_cons.mp hmem with rfl | hmem
      · exact Option.some_ne_none _
      · exact htitles s hmem

theorem lines_unlines_sections (hT : T.Sublist (sections prompt))
    (hne : T.flatMap (·.lines) ≠ []) :
    lines (unlines (T.flatMap (·.lines))) = T.flatMap (·.lines) := by
  apply lines_unlines hne
  intro l hl
  have hmem : l ∈ lines prompt := by
    obtain ⟨s, hs, hls⟩ := List.mem_flatMap.mp hl
    rw [← flatMap_lines_sections]
    exact List.mem_flatMap.mpr ⟨s, hT.subset hs, hls⟩
  exact newline_not_mem hmem

theorem dropOperational_eq (prompt : List Char) :
    dropOperational prompt = unlines ((userSections prompt).flatMap (·.lines)) := by
  rw [dropOperational, keptLines_eq_userSections]

theorem dropOperational_dropOperational (prompt : List Char) :
    dropOperational (dropOperational prompt) = dropOperational prompt := by
  rw [dropOperational_eq prompt]
  by_cases hne : (userSections prompt).flatMap (·.lines) = []
  · rw [hne]
    rfl
  · have hlines : lines (unlines ((userSections prompt).flatMap (·.lines))) =
        (userSections prompt).flatMap (·.lines) :=
      lines_unlines_sections List.filter_sublist hne
    have hagain : userSections (unlines ((userSections prompt).flatMap (·.lines))) =
        userSections prompt := by
      rw [userSections, sections, hlines, sections_of_userSections, userSections,
        List.filter_filter]
      simp only [Bool.and_self]
    rw [dropOperational_eq, hagain]

theorem keepCore_keepCore (found : Bool) (S : List Section) :
    keepCore found (keepCore found S) = keepCore found S := by
  induction S generalizing found with
  | nil => rfl
  | cons s S ih =>
    by_cases hs : (!found && s.hasText || s.isCore) = true
    · rw [keepCore, if_pos hs, keepCore, if_pos hs, ih]
    · -- A section that is passed over has no text, or text was found before it.
      have hfound : (found || s.hasText) = found := by
        cases found <;> simp_all
      rw [keepCore, if_neg hs, hfound, ih]

/-- A scan of the first section, with or without its lines, and of any sections behind it finds
these sections again. -/
theorem sectionsFrom_kept (hs : sectionsFrom none (markHeaders none ls) = ⟨none, ks⟩ :: S)
    (hT : T.Sublist S) (keeping : Bool) :
    sectionsFrom none
        (markHeaders none ((if keeping then ks else []) ++ T.flatMap (·.lines))) =
      ⟨none, if keeping then ks else []⟩ :: T := by
  obtain ⟨K, hK, hscan⟩ := exists_selected_sections hs hT keeping
  have hlines : K.map (·.2) = (if keeping then ks else []) ++ T.flatMap (·.lines) := by
    rw [← flatMap_lines_sectionsFrom none K, hscan none, List.flatMap_cons]
  have hmarks := markHeaders_selected hK rfl
  rw [ite_self, hlines] at hmarks
  rw [hmarks, hscan none]

/-- The untitled section is no core topic: it stays only for its text. -/
theorem keepCore_untitled (ks : List Line) (S : List Section) :
    keepCore false (⟨none, ks⟩ :: S) =
      if Section.hasText ⟨none, ks⟩ then ⟨none, ks⟩ :: keepCore true S else keepCore false S := by
  have hcore : Section.isCore ⟨none, ks⟩ = false := rfl
  rw [keepCore, hcore]
  cases Section.hasText ⟨none, ks⟩ <;> rfl

/-- The lines of the persona have the persona's sections for their own. -/
theorem keepCore_rescan (prompt : List Char) :
    keepCore false (sectionsFrom none
        (markHeaders none ((keepCore false (sections prompt)).flatMap (·.lines)))) =
      keepCore false (sections prompt) := by
  obtain ⟨ks, S, hs⟩ := exists_sectionsFrom none (markHeaders none (lines prompt))
  rw [sections, hs, keepCore_untitled]
  split
  case isTrue htext =>
    have hscan := sectionsFrom_kept hs (keepCore_sublist true S) true
    rw [if_pos rfl] at hscan
    rw [List.flatMap_cons, hscan, keepCore_untitled, if_pos htext, keepCore_keepCore]
  case isFalse =>
    -- An untitled section without lines stands in the place of the one without text.
    have hscan := sectionsFrom_kept hs (keepCore_sublist false S) false
    rw [if_neg Bool.false_ne_true, List.nil_append] at hscan
    rw [hscan, keepCore_untitled, if_neg (by decide), keepCore_keepCore]

theorem corePersona_corePersona (prompt : List Char) :
    corePersona (corePersona prompt) = corePersona prompt := by
  by_cases hne : (keepCore false (sections prompt)).flatMap (·.lines) = []
  · rw [corePersona, corePersona, hne]
    rfl
  · have hlines := lines_unlines_sections (keepCore_sublist false (sections prompt)) hne
    rw [corePersona, sections, corePersona, hlines, keepCore_rescan]

/-- The prompt is its sections, each read as if it stood alone. Whole sections are dropped of it,
for being operational or as no part of the persona, and the untitled one is never operational. A
line that stays is in the same block as before, and a header just when it was one. So both passes
leave alone what they have made. -/
theorem sections_dropped_whole (prompt : List Char) :
    unlines ((sections prompt).flatMap (·.lines)) = prompt ∧
      readings none (lines prompt) = (sections prompt).flatMap (·.readings) ∧
      dropOperational prompt =
        unlines (((sections prompt).filter fun s => ¬ s.IsOperational).flatMap (·.lines)) ∧
      (∃ ks S, sections prompt = ⟨none, ks⟩ :: S ∧ (∀ s ∈ S, s.title ≠ none) ∧
        (sections prompt).filter (fun s => ¬ s.IsOperational) =
          ⟨none, ks⟩ :: S.filter fun s => ¬ s.IsOperational) ∧
      (∃ T : List Section, T.Sublist (sections prompt) ∧
        corePersona prompt = unlines (T.flatMap (·.lines))) ∧
      dropOperational (dropOperational prompt) = dropOperational prompt ∧
      corePersona (corePersona prompt) = corePersona prompt ∧
      ∀ T : List Section, T.Sublist (sections prompt) → T.flatMap (·.lines) ≠ [] →
        readings none (lines (unlines (T.flatMap (·.lines)))) = T.flatMap (·.readings) := by
  obtain ⟨ks, S, hs, htitles⟩ := titled_sectionsFrom none (markHeaders none (lines prompt))
  refine ⟨?_, ?_, dropOperational_eq prompt, ⟨ks, S, hs, htitles, ?_⟩,
    ⟨_, keepCore_sublist false (sections prompt), rfl⟩, dropOperational_dropOperational prompt,
    corePersona_corePersona prompt, ?_⟩
  · rw [flatMap_lines_sections, unlines_lines]
  · rw [← flatMap_lines_sections, readings_of_closed (closed_sections prompt)]
  · have huntitled : ¬ Section.IsOperational ⟨none, ks⟩ := by simp [Section.IsOperational]
    rw [sections, hs, List.filter_cons_of_pos (by simpa using huntitled)]
  · intro T hT hne
    rw [lines_unlines_sections hT hne]
    exact readings_of_closed ((closed_sections prompt).sublist hT)

/-- One block is closed by a longer fence of its own character, the other never. -/
def mixedPrompt : List Char :=
  "Be Sam.\n# Tools\n~~~\n```\n# Role\n~~~~ \n# Vibe\n````\n# Memory\n```".toList

/-- The line `# Memory` stays what it is, a line of the open block. -/
theorem sections_dropped_whole_mixed :
    (userSections mixedPrompt).Sublist (sections mixedPrompt) ∧
      (userSections mixedPrompt).flatMap (·.lines) ≠ [] ∧
      dropOperational (dropOperational mixedPrompt) =
        "Be Sam.\n# Vibe\n````\n# Memory\n```".toList ∧
      readings none (lines (dropOperational mixedPrompt)) =
        [⟨none, none, "Be Sam.".toList⟩, ⟨none, some "Vibe".toList, "# Vibe".toList⟩,
          ⟨none, none, "````".toList⟩, ⟨some ⟨backtick, 4⟩, none, "# Memory".toList⟩,
          ⟨some ⟨backtick, 4⟩, none, "```".toList⟩] := by
  have hT : (userSections mixedPrompt).Sublist (sections mixedPrompt) := List.filter_sublist
  have hne : (userSections mixedPrompt).flatMap (·.lines) ≠ [] := by decide +kernel
  obtain ⟨-, -, hdrop, -, -, hagain, -, hread⟩ := sections_dropped_whole mixedPrompt
  refine ⟨hT, hne, hagain.trans (by decide +kernel), ?_⟩
  rw [hdrop]
  exact (hread _ hT hne).trans (by decide +kernel)

end TierRouting.Prompt
