import TierRouting.Prompt.Adapt
import TierRouting.Proofs.Prompt.BlankRuns
import TierRouting.Proofs.Prompt.Selection
import TierRouting.Proofs.Text.Erasing

/-! The prompt of a local model, line by line: which lines it is made of, and what it says. -/
namespace TierRouting.Prompt

open Text

variable {ls : List Line} {l : Line} {w cs prompt : List Char} {s : Section} {S : List Section}
  {found : Bool}

def phrases : List (List Char) := boilerplate.map String.toList

theorem dropBoilerplate_eq : dropBoilerplate = eraseAll phrases := by
  funext cs
  rw [dropBoilerplate, eraseAll, phrases, List.foldl_map]

theorem phrase_ne_nil : ∀ p ∈ phrases, p ≠ [] ∧ '\n' ∉ p := by simp [phrases, boilerplate]

theorem dropBoilerplate_unlines (ls : List Line) :
    dropBoilerplate (unlines ls) = unlines (ls.map dropBoilerplate) := by
  rw [dropBoilerplate_eq, eraseAll_unlines phrase_ne_nil]

/-- The lines under headers that are not operational, each without the phrases. -/
def bareLines (prompt : List Char) : List Line :=
  (keptLines true (markHeaders none (lines prompt))).map dropBoilerplate

def shrunkLines (prompt : List Char) : List Line := collapseFrom false (bareLines prompt)

/-- Only the core persona of such a prompt is given. -/
def IsOversized (prompt : List Char) : Prop :=
  personaThreshold < (unlines (shrunkLines prompt)).length

instance (prompt : List Char) : Decidable (IsOversized prompt) :=
  inferInstanceAs (Decidable (personaThreshold < (unlines (shrunkLines prompt)).length))

def personaSections (prompt : List Char) : List Section :=
  keepCore false (sectionsFrom none (markHeaders none (shrunkLines prompt)))

/-- The lines of which a local model is given those with text. -/
def localLines (prompt : List Char) : List Line :=
  if IsOversized prompt then (personaSections prompt).flatMap (·.lines) else shrunkLines prompt

theorem newline_not_mem_keptLines (prompt : List Char) :
    ∀ l ∈ keptLines true (markHeaders none (lines prompt)), '\n' ∉ l := by
  obtain ⟨K, hK, hl, -⟩ := exists_selected_keptLines (markHeaders none (lines prompt))
  intro l h
  rw [← hl] at h
  have hm := (hK.sublist.map (·.2)).subset h
  rw [map_snd_markHeaders] at hm
  exact newline_not_mem hm

theorem newline_not_mem_bareLines (prompt : List Char) : ∀ l ∈ bareLines prompt, '\n' ∉ l := by
  intro l h hn
  obtain ⟨k, hk, rfl⟩ := List.mem_map.mp h
  rw [dropBoilerplate_eq] at hn
  exact newline_not_mem_keptLines prompt k hk
    (mem_of_mem_eraseAll (fun p hp => (phrase_ne_nil p hp).1) hn)

theorem newline_not_mem_shrunkLines (prompt : List Char) : ∀ l ∈ shrunkLines prompt, '\n' ∉ l :=
  newline_not_mem_collapseFrom (newline_not_mem_bareLines prompt)

theorem collapseBlank_unlines (h : ∀ l ∈ ls, '\n' ∉ l) :
    collapseBlank (unlines ls) = unlines (collapseFrom false ls) := by
  by_cases hls : ls = []
  · subst hls
    rfl
  · rw [collapseBlank, lines_unlines hls h]

theorem titles_unlines (h : ∀ l ∈ ls, '\n' ∉ l) : titles (unlines ls) = titlesFrom none ls := by
  by_cases hls : ls = []
  · subst hls
    exact titlesFrom_cons_of_blank rfl
  · rw [titles, lines_unlines hls h]

theorem keepCore_sublist (found : Bool) (S : List Section) : (keepCore found S).Sublist S := by
  induction S generalizing found with
  | nil => exact .slnil
  | cons s r ih =>
    rw [keepCore]
    split
    · exact (ih _).cons_cons s
    · exact (ih _).cons s

/-- The core persona of marked lines is a selection, with the titles of its sections. -/
theorem exists_selected_keepCore (M : Marked) :
    ∃ keeping K, Selected keeping M K ∧
      K.map (·.2) = (keepCore false (sectionsFrom none M)).flatMap (·.lines) ∧
      (K.filterMap (·.1)).map normalizeTitle =
        (keepCore false (sectionsFrom none M)).filterMap (·.title) := by
  obtain ⟨ks, S, hs⟩ := exists_sectionsFrom none M
  have hread {keeping : Bool} {K : Marked} {T : List Section}
      (hK : sectionsFrom none K = ⟨none, if keeping then ks else []⟩ :: T) :
      K.map (·.2) = (if keeping then ks else []) ++ T.flatMap (·.lines) ∧
        (K.filterMap (·.1)).map normalizeTitle = T.filterMap (·.title) := by
    have hlines := flatMap_lines_sectionsFrom none K
    have htitles := filterMap_title_sectionsFrom none K
    rw [hK] at hlines htitles
    exact ⟨hlines.symm, by simpa using htitles.symm⟩
  rw [hs, keepCore]
  split
  · obtain ⟨K, hK, hl⟩ := exists_selected_sections hs (keepCore_sublist _ S) true
    obtain ⟨hlines, htitles⟩ := hread (hl none)
    exact ⟨true, K, hK, by simpa using hlines, by simpa using htitles⟩
  · obtain ⟨K, hK, hl⟩ := exists_selected_sections hs (keepCore_sublist _ S) false
    obtain ⟨hlines, htitles⟩ := hread (hl none)
    exact ⟨false, K, hK, by simpa using hlines, htitles⟩

theorem mem_shrunkLines_of_mem_localLines (h : l ∈ localLines prompt) : l ∈ shrunkLines prompt := by
  rw [localLines] at h
  split at h
  · obtain ⟨_, K, hK, hl, -⟩ := exists_selected_keepCore (markHeaders none (shrunkLines prompt))
    rw [personaSections, ← hl] at h
    have hm := (hK.sublist.map (·.2)).subset h
    rwa [map_snd_markHeaders] at hm
  · exact h

theorem newline_not_mem_localLines (prompt : List Char) : ∀ l ∈ localLines prompt, '\n' ∉ l :=
  fun l h => newline_not_mem_shrunkLines prompt l (mem_shrunkLines_of_mem_localLines h)

theorem lines_suffix : lines conciseSuffix.toList = [conciseSuffix.toList] :=
  splitAt_of_not_mem (by simp [conciseSuffix])

theorem lines_append_suffix (cs : List Char) :
    lines (cs ++ '\n' :: '\n' :: conciseSuffix.toList) =
      lines cs ++ [[], conciseSuffix.toList] := by
  rw [lines, splitAt_append_sep, splitAt_cons_self, ← lines, ← lines, lines_suffix]

/-- The passes over the text come to one pass over the lines, up to blanks. -/
theorem localBody_eq (prompt : List Char) :
    localBody prompt =
      trimEnd (if IsOversized prompt then collapseBlank (unlines (localLines prompt))
        else unlines (localLines prompt)) := by
  have htext : collapseBlank (dropBoilerplate (dropOperational prompt)) =
      unlines (shrunkLines prompt) := by
    rw [dropOperational, dropBoilerplate_unlines]
    exact collapseBlank_unlines (newline_not_mem_bareLines prompt)
  rw [localBody, htext]
  by_cases hlong : IsOversized prompt
  · have hne : shrunkLines prompt ≠ [] := by
      intro h
      rw [IsOversized, h] at hlong
      exact absurd hlong (by decide)
    have hcore : corePersona (unlines (shrunkLines prompt)) = unlines (localLines prompt) := by
      rw [corePersona, sections, lines_unlines hne (newline_not_mem_shrunkLines prompt), localLines,
        if_pos hlong, personaSections]
    rw [if_pos hlong, ← hcore]
    exact congrArg trimEnd (if_pos hlong)
  · rw [if_neg hlong, localLines, if_neg hlong]
    exact congrArg trimEnd (if_neg hlong)

end TierRouting.Prompt
