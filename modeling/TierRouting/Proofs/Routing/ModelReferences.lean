import TierRouting.ModelRef
import TierRouting.Proofs.Text.Splitting
import TierRouting.Proofs.Text.Trimming

/-! Which texts refer to a model. Reading a reference undoes writing it, and the other way round up
to blanks and the default provider. -/
namespace TierRouting.ModelRef

open Text

variable {m : ModelRef} {s : String} {a b t cs : List Char}

/-- Both halves have text and no blanks around it, and the provider has no slash. -/
structure WellFormed (m : ModelRef) : Prop where
  provider_ne : m.provider ≠ ""
  model_ne : m.model ≠ ""
  provider_trimmed : IsTrimmed m.provider.toList
  model_trimmed : IsTrimmed m.model.toList
  slash_not_mem : '/' ∉ m.provider.toList

/-- A text refers to a model by the halves with a slash between them, or by the second half alone
if the first is the default one. Blanks around the halves do not count. -/
inductive Spells (m : ModelRef) : List Char → Prop
  | halves {a b : List Char} (ha : Padded m.provider.toList a) (hb : Padded m.model.toList b) :
      Spells m (a ++ '/' :: b)
  | alone {cs : List Char} (hprovider : m.provider = defaultProvider)
      (hslash : '/' ∉ m.model.toList) (hcs : Padded m.model.toList cs) : Spells m cs

/-- There is no text, or none on one side of the first slash. -/
def Malformed (cs : List Char) : Prop :=
  allBlank cs = true ∨
    ∃ a b, cs = a ++ '/' :: b ∧ '/' ∉ a ∧ (allBlank a = true ∨ allBlank b = true)

theorem toList_toString (m : ModelRef) :
    (toString m).toList = m.provider.toList ++ '/' :: m.model.toList := by
  change (m.provider ++ "/" ++ m.model).toList = _
  simp

theorem slash_not_mem_of_padded (h : Padded t cs) (ht : '/' ∉ t) : '/' ∉ cs := by
  obtain ⟨a, b, ha, hb, rfl⟩ := h
  have hblank : ∀ l, allBlank l = true → '/' ∉ l := by
    intro l hl hmem
    rw [allBlank_eq_false (by decide) hmem] at hl
    contradiction
  simp [hblank a ha, hblank b hb, ht]

theorem ofHalves?_eq_some_iff : ofHalves? a b = some m ↔
    trim a = m.provider.toList ∧ trim b = m.model.toList ∧ m.provider ≠ "" ∧ m.model ≠ "" := by
  obtain ⟨provider, model⟩ := m
  simp only [ofHalves?, Bool.or_eq_true, List.isEmpty_iff]
  by_cases h : trim a = [] ∨ trim b = []
  · rw [if_pos h]
    refine iff_of_false nofun ?_
    rintro ⟨ha, hb, hprovider, hmodel⟩
    rcases h with h | h
    · exact hprovider (String.toList_eq_nil_iff.mp (ha.symm.trans h))
    · exact hmodel (String.toList_eq_nil_iff.mp (hb.symm.trans h))
  · rw [if_neg h]
    obtain ⟨ha, hb⟩ := not_or.mp h
    constructor
    · intro hm
      cases hm
      simp [ha, hb]
    · rintro ⟨hprovider, hmodel, -, -⟩
      rw [hprovider, hmodel]
      simp

theorem ofHalves?_eq_none_iff : ofHalves? a b = none ↔ allBlank a = true ∨ allBlank b = true := by
  simp only [ofHalves?, Bool.or_eq_true, List.isEmpty_iff, trim_eq_nil_iff]
  split
  · next h => exact iff_of_true rfl h
  · next h => exact iff_of_false nofun h

theorem parse?_of_slash (hs : s.toList = a ++ '/' :: b) (ha : '/' ∉ a) :
    parse? s = ofHalves? a b := by
  have hstart : '/' ∉ trimStart a := fun h => ha (List.dropWhile_subset _ h)
  rw [parse?, hs, trim_append_cons (by decide), splitFirst_append _ hstart]
  simp only [ofHalves?, trim_trimStart, trim_trimEnd]

theorem parse?_of_no_slash (hs : '/' ∉ s.toList) : parse? s =
    if trim s.toList = [] then none
    else some ⟨defaultProvider, String.ofList (trim s.toList)⟩ := by
  have htrim : '/' ∉ trim s.toList := fun h => hs (mem_of_mem_trim h)
  rw [parse?, splitFirst_of_not_mem htrim]
  simp

theorem isTrimmed_defaultProvider : IsTrimmed defaultProvider.toList where
  head := by
    rintro c ⟨⟩
    decide
  last := by
    rintro c ⟨⟩
    decide

theorem wellFormed_alone (hne : t ≠ []) (ht : IsTrimmed t) :
    WellFormed ⟨defaultProvider, String.ofList t⟩ where
  provider_ne := by simp [defaultProvider]
  model_ne := by simpa using hne
  provider_trimmed := isTrimmed_defaultProvider
  model_trimmed := by simpa using ht
  slash_not_mem := by simp [defaultProvider]

/-- What is read from a text is well-formed, and the text spells it. -/
theorem spells_of_parse? (h : parse? s = some m) : m.WellFormed ∧ Spells m s.toList := by
  by_cases hslash : '/' ∈ s.toList
  · obtain ⟨a, b, hs, ha⟩ := List.eq_append_cons_of_mem hslash
    rw [parse?_of_slash hs ha, ofHalves?_eq_some_iff] at h
    obtain ⟨hprovider, hmodel, hprovider_ne, hmodel_ne⟩ := h
    refine ⟨⟨hprovider_ne, hmodel_ne, ?_, ?_, ?_⟩, ?_⟩
    · rw [← hprovider]
      exact isTrimmed_trim a
    · rw [← hmodel]
      exact isTrimmed_trim b
    · rw [← hprovider]
      exact fun hmem => ha (mem_of_mem_trim hmem)
    · rw [hs]
      apply Spells.halves
      · rw [← hprovider]
        exact padded_trim a
      · rw [← hmodel]
        exact padded_trim b
  · rw [parse?_of_no_slash hslash] at h
    split at h
    · contradiction
    · next hne =>
      cases h
      refine ⟨wellFormed_alone hne (isTrimmed_trim _), .alone rfl ?_ ?_⟩
      · simpa using fun hmem => hslash (mem_of_mem_trim hmem)
      · simpa using padded_trim s.toList

theorem parse?_of_spells (hm : m.WellFormed) (hs : Spells m s.toList) : parse? s = some m := by
  generalize he : s.toList = cs at hs
  cases hs with
  | halves ha hb =>
    have hslash := slash_not_mem_of_padded ha hm.slash_not_mem
    rw [parse?_of_slash he hslash, ofHalves?_eq_some_iff]
    have hprovider := (trim_eq_iff hm.provider_trimmed).mpr ha
    have hmodel := (trim_eq_iff hm.model_trimmed).mpr hb
    exact ⟨hprovider, hmodel, hm.provider_ne, hm.model_ne⟩
  | alone hprovider hslash hcs =>
    have hnot : '/' ∉ s.toList := he ▸ slash_not_mem_of_padded hcs hslash
    have hmodel : trim s.toList = m.model.toList := by
      rw [he]
      exact (trim_eq_iff hm.model_trimmed).mpr hcs
    have hne : m.model.toList ≠ [] := fun h => hm.model_ne (String.toList_eq_nil_iff.mp h)
    rw [parse?_of_no_slash hnot, hmodel, if_neg hne, ← hprovider, String.ofList_toList]

theorem parse?_eq_none_iff : parse? s = none ↔ Malformed s.toList := by
  constructor
  · intro h
    by_cases hslash : '/' ∈ s.toList
    · obtain ⟨a, b, hs, ha⟩ := List.eq_append_cons_of_mem hslash
      rw [parse?_of_slash hs ha, ofHalves?_eq_none_iff] at h
      exact .inr ⟨a, b, hs, ha, h⟩
    · rw [parse?_of_no_slash hslash] at h
      split at h
      · next hnil => exact .inl (trim_eq_nil_iff.mp hnil)
      · contradiction
  · rintro (hblank | ⟨a, b, hs, ha, hhalf⟩)
    · have hslash : '/' ∉ s.toList := by
        intro hmem
        rw [allBlank_eq_false (by decide) hmem] at hblank
        contradiction
      rw [parse?_of_no_slash hslash, if_pos (trim_eq_nil_iff.mpr hblank)]
    · rw [parse?_of_slash hs ha]
      exact ofHalves?_eq_none_iff.mpr hhalf

theorem parse?_eq_some_iff : parse? s = some m ↔ m.WellFormed ∧ Spells m s.toList := by
  constructor
  · exact spells_of_parse?
  · rintro ⟨hm, hs⟩
    exact parse?_of_spells hm hs

theorem spells_toString (m : ModelRef) : Spells m (toString m).toList := by
  rw [toList_toString]
  exact .halves (padded_self _) (padded_self _)

/-- A text is read just when it spells a well-formed reference, and it is malformed otherwise. The
well-formed references are those that are read back from the text they are written as. -/
theorem parse?_inverse_toString :
    (∀ s, parse? s = none ↔ Malformed s.toList) ∧
      (∀ s m, parse? s = some m ↔ m.WellFormed ∧ Spells m s.toList) ∧
      ∀ m : ModelRef, m.WellFormed ↔ parse? (toString m) = some m := by
  refine ⟨fun s => parse?_eq_none_iff, fun s m => parse?_eq_some_iff, fun m => ?_⟩
  constructor
  · intro hm
    exact parse?_of_spells hm (spells_toString m)
  · intro h
    exact (spells_of_parse? h).1

/-- A second slash belongs to the model. -/
example : parse? " p / /x/y " = some ⟨"p", "/x/y"⟩ := by decide

end TierRouting.ModelRef
