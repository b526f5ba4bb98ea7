import TierRouting.Proofs.Prompt.BlankPairs
import TierRouting.Text.Lines

/-! The cleaning of a prompt only takes away, and leaves as it is just what has nothing to clean. -/
namespace TierRouting.Prompt

open Text

variable {inRun : Bool} {k l : Line} {ks ls : List Line} {prompt : List Char}

/-- A prompt without boilerplate and without runs of blank lines. -/
def IsClean (prompt : List Char) : Prop :=
  (∀ phrase ∈ boilerplate, ¬ phrase.toList <:+: prompt) ∧ NoBlankPair (lines prompt)

theorem unlines_sublist_cons (l : Line) (ls : List Line) :
    (unlines ls).Sublist (unlines (l :: ls)) := by
  by_cases h : ls = []
  · subst h
    exact List.nil_sublist _
  · have hu : unlines (l :: ls) = l ++ '\n' :: unlines ls := joinWith_cons h
    rw [hu]
    exact (List.sublist_cons_self _ _).trans (List.sublist_append_right _ _)

theorem unlines_cons_sublist_cons (hl : k.Sublist l) (hls : (unlines ks).Sublist (unlines ls))
    (hne : ks ≠ [] → ls ≠ []) : (unlines (k :: ks)).Sublist (unlines (l :: ls)) := by
  by_cases hk : ks = []
  · subst hk
    by_cases h : ls = []
    · subst h
      exact hl
    · have hu : unlines (l :: ls) = l ++ '\n' :: unlines ls := joinWith_cons h
      rw [hu]
      exact hl.trans (List.sublist_append_left _ _)
  · have hu : unlines (l :: ls) = l ++ '\n' :: unlines ls := joinWith_cons (hne hk)
    have hv : unlines (k :: ks) = k ++ '\n' :: unlines ks := joinWith_cons hk
    rw [hu, hv]
    exact hl.append (hls.cons_cons '\n')

theorem unlines_collapseFrom_sublist (inRun : Bool) (ls : List Line) :
    (unlines (collapseFrom inRun ls)).Sublist (unlines ls) := by
  induction ls generalizing inRun with
  | nil => exact .slnil
  | cons l r ih =>
    have hne : ∀ b, collapseFrom b r ≠ [] → r ≠ [] := by
      rintro b h rfl
      exact h rfl
    cases hl : allBlank l with
    | false =>
      rw [collapseFrom_cons_of_not_blank hl]
      exact unlines_cons_sublist_cons (.refl l) (ih false) (hne false)
    | true =>
      rcases collapseFrom_cons_of_blank inRun r hl with e | ⟨k, hk, e⟩
      · rw [e]
        exact (ih true).trans (unlines_sublist_cons l r)
      · have hsub : k.Sublist l := by
          rcases hk with rfl | rfl
          · exact List.nil_sublist l
          · exact .refl k
        rw [e]
        exact unlines_cons_sublist_cons hsub (ih true) (hne true)

theorem collapseBlank_sublist (text : List Char) : (collapseBlank text).Sublist text := by
  have h := unlines_collapseFrom_sublist false (lines text)
  rwa [unlines_lines] at h

theorem dropBoilerplate_sublist (prompt : List Char) : (dropBoilerplate prompt).Sublist prompt := by
  rw [dropBoilerplate_eq]
  exact eraseAll_sublist (fun p hp => (phrase_ne_nil p hp).1) prompt

theorem forFast_sublist (prompt : List Char) : (forFast prompt).Sublist prompt :=
  (collapseBlank_sublist _).trans (dropBoilerplate_sublist prompt)

theorem dropBoilerplate_eq_self_iff :
    dropBoilerplate prompt = prompt ↔ ∀ phrase ∈ boilerplate, ¬ phrase.toList <:+: prompt := by
  rw [dropBoilerplate_eq, eraseAll_eq_self_iff fun p hp => (phrase_ne_nil p hp).1]
  simp [phrases]

/-- What the first pass takes away, the second does not put back. -/
theorem forFast_eq_self_iff : forFast prompt = prompt ↔ IsClean prompt := by
  constructor
  · intro h
    have hback : prompt.Sublist (dropBoilerplate prompt) := by
      have hsub := collapseBlank_sublist (dropBoilerplate prompt)
      rwa [← forFast, h] at hsub
    have hfirst : dropBoilerplate prompt = prompt :=
      (dropBoilerplate_sublist prompt).eq_of_length_le hback.length_le
    rw [forFast, hfirst] at h
    exact ⟨dropBoilerplate_eq_self_iff.mp hfirst, collapseBlank_eq_self_iff.mp h⟩
  · rintro ⟨hphrases, hpair⟩
    rw [forFast, dropBoilerplate_eq_self_iff.mpr hphrases, collapseBlank_eq_self_iff.mpr hpair]

/-- A fast model is given a clean prompt untouched, and of any other prompt a shorter part. -/
theorem clean_prompt_untouched (prompt : String) :
    ((adapt prompt .t2).wasAdapted = false ↔ IsClean prompt.toList) ∧
      ∃ out, (adapt prompt .t2).systemPrompt = some out ∧ out.toList.Sublist prompt.toList ∧
        (IsClean prompt.toList ∧ out = prompt ∨
          ¬ IsClean prompt.toList ∧ out.length < prompt.length ∧
            byteLength out.toList < byteLength prompt.toList) := by
  have hadapted : (adapt prompt .t2).wasAdapted = false ↔ IsClean prompt.toList := by
    rw [← forFast_eq_self_iff]
    exact bne_eq_false_iff_eq
  have hsub := forFast_sublist prompt.toList
  refine ⟨hadapted, String.ofList (forFast prompt.toList), rfl, ?_, ?_⟩
  · rwa [String.toList_ofList]
  · by_cases hclean : IsClean prompt.toList
    · left
      rw [forFast_eq_self_iff.mpr hclean, String.ofList_toList]
      exact ⟨hclean, rfl⟩
    · right
      have hne : forFast prompt.toList ≠ prompt.toList := fun h =>
        hclean (forFast_eq_self_iff.mp h)
      have hlt : (forFast prompt.toList).length < prompt.toList.length := by
        have hle := hsub.length_le
        have hlen := mt hsub.eq_of_length hne
        omega
      rw [String.toList_ofList, String.length_ofList, ← String.length_toList]
      exact ⟨hclean, hlt, byteLength_lt_of_sublist hsub hne⟩

end TierRouting.Prompt
