import Mathlib.Logic.Basic
import TierRouting.Proofs.Prompt.LocalLines

/-! Which operational headers a local model still reads: those that the removal of phrases makes. -/
namespace TierRouting.Prompt

open Text

variable {prompt : List Char} {t : List Char} {l : Line} {ls : List Line} {s : Section}
  {S : List Section} {found : Bool} {title : Option (List Char)} {M : Marked}

/-- The section pass alone leaves no operational header. -/
theorem not_isOperational_of_mem_titles_dropOperational
    (h : t ∈ titlesFrom none (keptLines true (markHeaders none (lines prompt)))) :
    isOperational t = false := by
  obtain ⟨K, hK, hl, hs⟩ := exists_selected_keptLines (markHeaders none (lines prompt))
  have hm : markHeaders none (K.map (·.2)) = K := markHeaders_selected hK rfl
  have htitles := filterMap_title_sectionsFrom none K
  rw [← hl, titlesFrom, hm] at h
  have hu : normalizeTitle t ∈ (sectionsFrom none K).filterMap (·.title) := by
    rw [htitles]
    exact List.mem_append_right _ (List.mem_map_of_mem h)
  obtain ⟨s, hsK, hst⟩ := List.mem_filterMap.mp hu
  have hkept : ¬ s.IsOperational := by
    rw [hs] at hsK
    simpa using (List.mem_filter.mp hsK).2
  rw [← Bool.not_eq_true, isOperational_iff]
  exact fun ho => hkept ⟨_, hst, ho⟩

theorem not_isCoreTopic_of_operational {u : List Char} (h : IsOperationalTitle u) :
    isCoreTopic u = false := by
  have hall : ∀ o ∈ operationalTitles, isCoreTopic o.toList = false := by decide +kernel
  obtain ⟨o, ho, rfl⟩ := h
  exact hall o ho

theorem isOperational_nil : isOperational [] = false := by decide +kernel

theorem titlesFrom_suffix (state : Option Fence) :
    titlesFrom state [conciseSuffix.toList] = [] := by
  rw [titlesFrom_cons]
  cases state with
  | some f => rfl
  | none =>
    have h : (step none conciseSuffix.toList).2 = none := by decide +kernel
    simp [h]

theorem titles_forLocal (prompt : List Char) :
    titles (forLocal prompt) = titles (localBody prompt) := by
  rw [forLocal]
  cases hb : localBody prompt with
  | nil => exact (congrArg (titlesFrom none) lines_suffix).trans (titlesFrom_suffix none)
  | cons c r =>
    simp only [List.isEmpty_cons, Bool.false_eq_true, if_false]
    rw [titles, lines_append_suffix, titlesFrom_append, titlesFrom_cons_of_blank rfl,
      titlesFrom_suffix, List.append_nil, titles]

/-- Trimming can only bring out a header without a title, which is not operational. -/
theorem mem_titles_forLocal_iff (h : isOperational t = true) :
    t ∈ titles (forLocal prompt) ↔ t ∈ titlesFrom none (localLines prompt) := by
  have hfilter : (titles (forLocal prompt)).filter isOperational =
      (titlesFrom none (localLines prompt)).filter isOperational := by
    rw [titles_forLocal, localBody_eq, titles_trimEnd_filter isOperational_nil,
      ← titles_unlines (newline_not_mem_localLines prompt)]
    split
    · rw [titles_collapseBlank]
    · rfl
  have hmem : t ∈ (titles (forLocal prompt)).filter isOperational ↔
      t ∈ (titlesFrom none (localLines prompt)).filter isOperational := by rw [hfilter]
  simpa [List.mem_filter, h] using hmem

theorem mem_keepCore (h : s ∈ keepCore found S) :
    s.isCore = true ∨ found = false ∧ S.find? (·.hasText) = some s := by
  induction S generalizing found with
  | nil => simp [keepCore] at h
  | cons r S ih =>
    have hrest : s ∈ keepCore (found || r.hasText) S →
        s.isCore = true ∨ found = false ∧ (r :: S).find? (·.hasText) = some s := by
      intro hs
      obtain hcore | ⟨hf, hS⟩ := ih hs
      · exact Or.inl hcore
      · rw [Bool.or_eq_false_iff] at hf
        exact Or.inr ⟨hf.1, by simp [hf.2, hS]⟩
    rw [keepCore] at h
    split at h
    next hc =>
      rcases List.mem_cons.mp h with rfl | h
      · simp only [Bool.or_eq_true, Bool.and_eq_true, Bool.not_eq_true'] at hc
        obtain ⟨hf, ht⟩ | hcore := hc
        · exact Or.inr ⟨hf, by simp [ht]⟩
        · exact Or.inl hcore
      · exact hrest h
    next => exact hrest h

theorem mem_keepCore_of_find? (h : S.find? (·.hasText) = some s) : s ∈ keepCore false S := by
  induction S with
  | nil => simp at h
  | cons r S ih =>
    cases hr : r.hasText with
    | true =>
      obtain rfl : r = s := by simpa [hr] using h
      simp [keepCore, hr]
    | false =>
      have hs : s ∈ keepCore false S := ih (by simpa [hr] using h)
      rw [keepCore, hr]
      split
      · exact List.mem_cons_of_mem r hs
      · exact hs

/-- No operational title is a core topic, so only the first section with text may have one. -/
theorem exists_operational_keepCore_iff :
    (∃ u ∈ (keepCore false S).filterMap (·.title), IsOperationalTitle u) ↔
      ∃ u ∈ (S.find? (·.hasText)).bind (·.title), IsOperationalTitle u := by
  constructor
  · rintro ⟨u, hu, ho⟩
    obtain ⟨s, hs, ht⟩ := List.mem_filterMap.mp hu
    rcases mem_keepCore hs with hc | ⟨-, hf⟩
    · rw [Section.isCore, ht, Option.any_some, not_isCoreTopic_of_operational ho] at hc
      exact absurd hc Bool.false_ne_true
    · exact ⟨u, by simp [hf, ht], ho⟩
  · rintro ⟨u, hu, ho⟩
    obtain ⟨s, hf, ht⟩ := Option.bind_eq_some_iff.mp hu
    exact ⟨u, List.mem_filterMap.mpr ⟨s, mem_keepCore_of_find? hf, ht⟩, ho⟩

theorem hasText_cons :
    Section.hasText ⟨title, l :: ls⟩ = (!allBlank l || Section.hasText ⟨title, ls⟩) := rfl

/-- The first section with text has the title that its first line with text bears. -/
theorem find?_sectionsFrom (hM : ∀ m ∈ M, ∀ t, m.1 = some t → allBlank m.2 = false) :
    ((sectionsFrom none M).find? (·.hasText)).bind (·.title) =
      (M.find? (!allBlank ·.2)).bind (·.1.map normalizeTitle) := by
  induction M with
  | nil => rfl
  | cons m M ih =>
    obtain ⟨title, l⟩ := m
    have hr := ih fun m hm => hM m (List.mem_cons_of_mem _ hm)
    cases title with
    | none =>
      obtain ⟨ks, S, hs⟩ := exists_sectionsFrom none M
      rw [hs] at hr
      rw [sectionsFrom, hs, addToFirst]
      cases hb : allBlank l with
      | true => cases ht : Section.hasText ⟨none, ks⟩ <;> simpa [hasText_cons, hb, ht] using hr
      | false => simp [hasText_cons, hb]
    | some t =>
      obtain ⟨ks, S, hs⟩ := exists_sectionsFrom (some (normalizeTitle t)) M
      have hb : allBlank l = false := hM _ List.mem_cons_self t rfl
      have hempty : Section.hasText ⟨none, []⟩ = false := rfl
      rw [sectionsFrom, hs, addToFirst]
      simp [hempty, hasText_cons, hb]

/-- The title that the first line with text bears. -/
def firstTitle? (ls : List Line) : Option (List Char) :=
  (ls.find? (!allBlank ·)).bind fun l => (step none l).2

theorem find?_markHeaders (ls : List Line) :
    ((markHeaders none ls).find? (!allBlank ·.2)).bind (·.1.map normalizeTitle) =
      (firstTitle? ls).map normalizeTitle := by
  induction ls with
  | nil => rfl
  | cons l ls ih =>
    cases hb : allBlank l with
    | true =>
      rw [markHeaders_cons, step_of_blank hb]
      simpa [firstTitle?, hb] using ih
    | false => simp [firstTitle?, hb]

theorem firstTitle?_shrunkLines (prompt : List Char) :
    firstTitle? (shrunkLines prompt) = firstTitle? (bareLines prompt) := by
  have htext := textLines_collapseFrom false (bareLines prompt)
  rw [textLines, textLines] at htext
  rw [firstTitle?, firstTitle?, ← List.head?_filter, ← List.head?_filter, shrunkLines, htext]

theorem allBlank_of_mem_markHeaders {state : Option Fence} {m : Option (List Char) × Line}
    (h : m ∈ markHeaders state ls) (ht : m.1 = some t) : allBlank m.2 = false := by
  induction ls generalizing state with
  | nil => simp at h
  | cons l ls ih =>
    rw [markHeaders_cons] at h
    rcases List.mem_cons.mp h with rfl | h
    · cases hb : allBlank l with
      | true =>
        rw [step_of_blank hb] at ht
        simp at ht
      | false => rfl
    · exact ih h

theorem titles_personaSections (prompt : List Char) :
    (titlesFrom none ((personaSections prompt).flatMap (·.lines))).map normalizeTitle =
      (personaSections prompt).filterMap (·.title) := by
  obtain ⟨keeping, K, hK, hl, ht⟩ :=
    exists_selected_keepCore (markHeaders none (shrunkLines prompt))
  have hm : markHeaders none (K.map (·.2)) = K := by
    have := markHeaders_selected hK rfl
    rwa [ite_self] at this
  rw [personaSections, ← ht, ← hl, titlesFrom, hm]

theorem exists_operational_personaSections_iff (prompt : List Char) :
    (∃ t ∈ titlesFrom none ((personaSections prompt).flatMap (·.lines)), isOperational t = true) ↔
      ∃ t ∈ firstTitle? (bareLines prompt), isOperational t = true := by
  have hnormal : (∃ t ∈ titlesFrom none ((personaSections prompt).flatMap (·.lines)),
      isOperational t = true) ↔
        ∃ u ∈ (personaSections prompt).filterMap (·.title), IsOperationalTitle u := by
    rw [← titles_personaSections]
    simp [isOperational_iff]
  have hfirst : ((sectionsFrom none (markHeaders none (shrunkLines prompt))).find?
      (·.hasText)).bind (·.title) = (firstTitle? (bareLines prompt)).map normalizeTitle := by
    rw [find?_sectionsFrom fun m hm t ht => allBlank_of_mem_markHeaders hm ht, find?_markHeaders,
      firstTitle?_shrunkLines]
  rw [hnormal, personaSections, exists_operational_keepCore_iff, hfirst]
  simp [isOperational_iff]

/-- A local model reads an operational header just when the kept lines show one once the phrases
are taken out of them; in the core persona only their very first line with text can be one. -/
theorem operational_title_left_iff (prompt : String) :
    ∃ out, (adapt prompt .t1).systemPrompt = some out ∧
      ((∃ t ∈ titles out.toList, isOperational t = true) ↔
        if IsOversized prompt.toList then
          ∃ t ∈ firstTitle? (bareLines prompt.toList), isOperational t = true
        else ∃ t ∈ titlesFrom none (bareLines prompt.toList), isOperational t = true) := by
  refine ⟨_, rfl, ?_⟩
  rw [String.toList_ofList]
  have hlocal : (∃ t ∈ titles (forLocal prompt.toList), isOperational t = true) ↔
      ∃ t ∈ titlesFrom none (localLines prompt.toList), isOperational t = true := by
    constructor
    · rintro ⟨t, ht, ho⟩
      exact ⟨t, (mem_titles_forLocal_iff ho).mp ht, ho⟩
    · rintro ⟨t, ht, ho⟩
      exact ⟨t, (mem_titles_forLocal_iff ho).mpr ht, ho⟩
  rw [hlocal, localLines]
  split
  · exact exists_operational_personaSections_iff prompt.toList
  · rw [shrunkLines, titlesFrom_collapseFrom]

/-- The sections are dropped before the phrases are, and a phrase may split a header. -/
theorem not_forall_operational_title_removed :
    ¬ ∀ prompt out : String, (adapt prompt .t1).systemPrompt = some out →
      ∀ t ∈ titles out.toList, isOperational t = false := by
  intro h
  have hmem : "Tools".toList ∈ titles
      (String.ofList (forLocal "## ToBe resourceful before asking.ols".toList)).toList := by
    decide +kernel
  have hfalse := h "## ToBe resourceful before asking.ols" _ rfl _ hmem
  exact absurd hfalse (by decide +kernel)

theorem titlesFrom_map {state : Option Fence} {f : Line → Line}
    (h : ∀ l ∈ ls, ∀ state, step state (f l) = step state l) :
    titlesFrom state (ls.map f) = titlesFrom state ls := by
  induction ls generalizing state with
  | nil => rfl
  | cons l ls ih =>
    rw [List.map_cons, titlesFrom_cons, titlesFrom_cons, h l List.mem_cons_self,
      ih fun k hk => h k (List.mem_cons_of_mem l hk)]

theorem mem_titlesFrom_of_firstTitle? (h : t ∈ firstTitle? ls) : t ∈ titlesFrom none ls := by
  induction ls with
  | nil => simp [firstTitle?] at h
  | cons l ls ih =>
    cases hb : allBlank l with
    | true =>
      rw [titlesFrom_cons_of_blank hb]
      exact ih (by simpa [firstTitle?, hb] using h)
    | false =>
      rw [titlesFrom_cons]
      have hl : (step none l).2 = some t := by simpa [firstTitle?, hb] using h
      simp [hl]

/-- Phrases outside the lines that the scan acts on do no harm. -/
theorem not_isOperational_of_same_reading
    (h : ∀ l ∈ keptLines true (markHeaders none (lines prompt)),
      ∀ state, step state (dropBoilerplate l) = step state l)
    (ht : t ∈ titles (forLocal prompt)) : isOperational t = false := by
  cases ho : isOperational t with
  | false => rfl
  | true =>
    have hbare : ∃ t ∈ titlesFrom none (bareLines prompt), isOperational t = true := by
      have hlocal := (mem_titles_forLocal_iff ho).mp ht
      rw [localLines] at hlocal
      split at hlocal
      · obtain ⟨u, hu, huo⟩ :=
          (exists_operational_personaSections_iff prompt).mp ⟨t, hlocal, ho⟩
        exact ⟨u, mem_titlesFrom_of_firstTitle? hu, huo⟩
      · rw [shrunkLines, titlesFrom_collapseFrom] at hlocal
        exact ⟨t, hlocal, ho⟩
    obtain ⟨u, hu, huo⟩ := hbare
    rw [bareLines, titlesFrom_map h] at hu
    rw [not_isOperational_of_mem_titles_dropOperational hu] at huo
    exact absurd huo Bool.false_ne_true

end TierRouting.Prompt
