import TierRouting.Proofs.Prompt.LocalLines

/-! Which phrases the shortened prompts still contain: those that the removal puts together. -/
namespace TierRouting.Prompt

open Text

variable {p prompt : List Char}

theorem separate_phrases : Separate phrases where
  ne_nil p hp := (phrase_ne_nil p hp).1
  head_not_mem_tail := by simp [phrases, boilerplate]
  eq_of_prefix := by simp [phrases, boilerplate]

theorem phrase_eq_concat : ∀ p ∈ phrases, p = p.dropLast ++ ['.'] := by
  simp [phrases, boilerplate]

theorem phrase_not_infix_suffix : ∀ p ∈ phrases, ¬ p <:+: conciseSuffix.toList := by
  have hhead : ∀ p ∈ phrases, ∃ c ∈ p.head?, c ∉ conciseSuffix.toList := by
    simp [phrases, boilerplate, conciseSuffix]
  intro p hp h
  obtain ⟨c, hc, hn⟩ := hhead p hp
  exact hn (h.subset (List.mem_of_mem_head? hc))

theorem allBlank_phrase (hp : p ∈ phrases) : allBlank p = false := by
  rw [phrase_eq_concat p hp, allBlank_append]
  simp [show isBlank '.' = false by decide]

theorem infix_trimEnd_iff (hp : p ∈ phrases) : p <:+: trimEnd prompt ↔ p <:+: prompt := by
  obtain ⟨b, hb, he⟩ := exists_append_trimEnd prompt
  have hi : p <:+: trimEnd prompt ++ b ↔ p <:+: trimEnd prompt := by
    rw [phrase_eq_concat p hp]
    exact infix_append_blank_iff (by decide) hb
  rw [← hi, ← he]

/-- The suffix adds no phrase, and trimming breaks none. -/
theorem infix_forLocal_iff (hp : p ∈ phrases) :
    p <:+: forLocal prompt ↔ ∃ l ∈ localLines prompt, p <:+: l := by
  obtain ⟨hne, hn⟩ := phrase_ne_nil p hp
  have hsuffix := phrase_not_infix_suffix p hp
  have hbody : p <:+: forLocal prompt ↔ p <:+: localBody prompt := by
    rw [forLocal]
    cases hb : localBody prompt with
    | nil => simp [hsuffix, hne]
    | cons c r =>
      have hempty : p <:+: '\n' :: conciseSuffix.toList ↔ p <:+: [] ∨ p <:+: conciseSuffix.toList :=
        infix_append_sep_iff (a := []) hn
      simp only [List.isEmpty_cons, Bool.false_eq_true, if_false]
      rw [infix_append_sep_iff hn, hempty]
      simp [hsuffix, hne]
  rw [hbody, localBody_eq, infix_trimEnd_iff hp, ← infix_unlines_iff hne hn]
  split
  · exact infix_collapseBlank_iff (allBlank_phrase hp) hn
  · exact Iff.rfl

theorem infix_dropBoilerplate_iff (hp : p ∈ phrases) :
    p <:+: dropBoilerplate prompt ↔ ∃ u, u <:+: prompt ∧ dropBoilerplate u = p := by
  rw [dropBoilerplate_eq]
  exact separate_phrases.infix_eraseAll_iff (fun _ h => h) hp

theorem infix_forFast_iff (hp : p ∈ phrases) :
    p <:+: forFast prompt ↔ ∃ u, u <:+: prompt ∧ dropBoilerplate u = p := by
  rw [forFast, infix_collapseBlank_iff (allBlank_phrase hp) (phrase_ne_nil p hp).2,
    infix_dropBoilerplate_iff hp]

theorem exists_localLines_iff (hp : p ∈ phrases) :
    (∃ l ∈ localLines prompt, p <:+: l) ↔
      ∃ l ∈ keptLines true (markHeaders none (lines prompt)),
        dropBoilerplate l ∈ localLines prompt ∧ ∃ u, u <:+: l ∧ dropBoilerplate u = p := by
  constructor
  · rintro ⟨k, hk, h⟩
    have hblank : allBlank k = false := by
      obtain ⟨x, y, rfl⟩ := h
      simp [allBlank_phrase hp]
    have hbare : k ∈ bareLines prompt :=
      (mem_collapseFrom_iff hblank).mp (mem_shrunkLines_of_mem_localLines hk)
    obtain ⟨l, hl, rfl⟩ := List.mem_map.mp hbare
    exact ⟨l, hl, hk, (infix_dropBoilerplate_iff hp).mp h⟩
  · rintro ⟨l, -, hl, h⟩
    exact ⟨dropBoilerplate l, hl, (infix_dropBoilerplate_iff hp).mpr h⟩

/-- A shortened prompt contains a phrase just when a piece of a line that stays reduces to that
phrase: the removal has then joined what it left on both sides. -/
theorem phrase_left_behind_iff (prompt : String) {phrase : String} (h : phrase ∈ boilerplate) :
    (∃ out, (adapt prompt .t1).systemPrompt = some out ∧
      (phrase.toList <:+: out.toList ↔
        ∃ l ∈ keptLines true (markHeaders none (lines prompt.toList)),
          dropBoilerplate l ∈ localLines prompt.toList ∧
            ∃ u, u <:+: l ∧ dropBoilerplate u = phrase.toList)) ∧
      ∃ out, (adapt prompt .t2).systemPrompt = some out ∧
        (phrase.toList <:+: out.toList ↔
          ∃ u, u <:+: prompt.toList ∧ dropBoilerplate u = phrase.toList) := by
  have hp : phrase.toList ∈ phrases := List.mem_map_of_mem h
  refine ⟨⟨_, rfl, ?_⟩, ⟨_, rfl, ?_⟩⟩
  · rw [String.toList_ofList, infix_forLocal_iff hp, exists_localLines_iff hp]
  · rw [String.toList_ofList, infix_forFast_iff hp]

/-- A piece with a copy of the phrase inside reduces to the phrase itself. -/
theorem permission_phrase_left_behind :
    "Don't ask permission. Just do it." ∈ boilerplate ∧
      (∃ out, (adapt "Don't ask Don't ask permission. Just do it.permission. Just do it."
        .t1).systemPrompt = some out ∧ "Don't ask permission. Just do it.".toList <:+: out.toList) ∧
      ∃ out, (adapt "Don't ask Don't ask permission. Just do it.permission. Just do it."
        .t2).systemPrompt = some out ∧
          "Don't ask permission. Just do it.".toList <:+: out.toList := by
  have hmem : "Don't ask permission. Just do it." ∈ boilerplate := by decide
  obtain ⟨⟨a, ha, hlocal⟩, b, hb, hfast⟩ := phrase_left_behind_iff
    "Don't ask Don't ask permission. Just do it.permission. Just do it." hmem
  refine ⟨hmem, ⟨a, ha, hlocal.mpr ?_⟩, b, hb, hfast.mpr ?_⟩
  · exact ⟨"Don't ask Don't ask permission. Just do it.permission. Just do it.".toList,
      by decide +kernel, by decide +kernel, _, List.infix_rfl, by decide +kernel⟩
  · exact ⟨_, List.infix_rfl, by decide +kernel⟩

theorem not_forall_phrase_removed :
    ¬ ∀ (prompt : String) (tier : Tier) (out : String), tier = .t1 ∨ tier = .t2 →
      (adapt prompt tier).systemPrompt = some out →
        ∀ phrase ∈ boilerplate, ¬ phrase.toList <:+: out.toList := by
  intro h
  exact h "Don't ask Don't ask permission. Just do it.permission. Just do it." .t2 _
    (Or.inr rfl) rfl "Don't ask permission. Just do it." (by decide) (by decide +kernel)

end TierRouting.Prompt
