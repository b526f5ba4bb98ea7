import TierRouting.Prompt.Section
import TierRouting.Proofs.Prompt.Headers

/-! A choice of whole sections, in which every line is read as it was before. -/
namespace TierRouting.Prompt

open Text

/-- Lines, each with its title if it is a header. -/
abbrev Marked := List (Option (List Char) × Line)

/-- Being operational is a matter of the normalized title. -/
def IsOperationalTitle (u : List Char) : Prop := ∃ o ∈ operationalTitles, o.toList = u

instance (u : List Char) : Decidable (IsOperationalTitle u) :=
  inferInstanceAs (Decidable (∃ o ∈ operationalTitles, o.toList = u))

def Section.IsOperational (s : Section) : Prop := ∃ u ∈ s.title, IsOperationalTitle u

instance (s : Section) : Decidable s.IsOperational :=
  inferInstanceAs (Decidable (∃ u ∈ s.title, IsOperationalTitle u))

/-- Sections are kept or dropped as a whole; `keeping` tells which holds for the one begun. -/
inductive Selected : Bool → Marked → Marked → Prop where
  | nil {keeping : Bool} : Selected keeping [] []
  | enter {keeping : Bool} {t : List Char} {l : Line} {M K : Marked} :
    Selected true M K → Selected keeping ((some t, l) :: M) ((some t, l) :: K)
  | pass {keeping : Bool} {t : List Char} {l : Line} {M K : Marked} :
    Selected false M K → Selected keeping ((some t, l) :: M) K
  | keep {l : Line} {M K : Marked} :
    Selected true M K → Selected true ((none, l) :: M) ((none, l) :: K)
  | drop {l : Line} {M K : Marked} : Selected false M K → Selected false ((none, l) :: M) K

variable {keeping : Bool} {state : Option Fence} {ls : List Line} {l : Line} {t : List Char}
  {title : Option (List Char)} {M K : Marked} {s : Section} {S T : List Section}

theorem Selected.sublist (h : Selected keeping M K) : K.Sublist M := by
  induction h with
  | nil => exact .slnil
  | enter _ ih => exact ih.cons_cons _
  | pass _ ih => exact ih.cons _
  | keep _ ih => exact ih.cons_cons _
  | drop _ ih => exact ih.cons _

theorem markHeaders_eq_cons {m : Option (List Char) × Line} (h : markHeaders state ls = m :: M) :
    ∃ r, ls = m.2 :: r ∧ (step state m.2).2 = m.1 ∧ markHeaders (step state m.2).1 r = M := by
  cases ls with
  | nil => simp at h
  | cons l r =>
    obtain ⟨rfl, hr⟩ := List.cons.inj h
    exact ⟨r, rfl, rfl, hr⟩

/-- Every header lies outside the blocks, so a dropped section neither opens nor closes one for
the lines that stay. -/
theorem markHeaders_selected (h : Selected keeping M K) (hm : markHeaders state ls = M) :
    markHeaders (if keeping then state else none) (K.map (·.2)) = K := by
  induction h generalizing state ls with
  | nil => rfl
  | @enter keeping t l M K _ ih =>
    obtain ⟨r, rfl, ht, hr⟩ := markHeaders_eq_cons hm
    obtain ⟨rfl, hs⟩ := step_eq_of_title ht
    have hk := ih hr
    simp only [if_true, hs] at hk
    simp only [ite_self, List.map_cons, markHeaders_cons, ht, hs, hk]
  | @pass keeping t l M K _ ih =>
    obtain ⟨r, rfl, ht, hr⟩ := markHeaders_eq_cons hm
    obtain ⟨rfl, hs⟩ := step_eq_of_title ht
    simpa using ih hr
  | @keep l M K _ ih =>
    obtain ⟨r, rfl, ht, hr⟩ := markHeaders_eq_cons hm
    have hk := ih hr
    simp only [if_true] at hk
    simp only [if_true, List.map_cons, markHeaders_cons, ht, hk]
  | @drop l M K _ ih =>
    obtain ⟨r, rfl, -, hr⟩ := markHeaders_eq_cons hm
    simpa using ih hr

theorem exists_sectionsFrom (title : Option (List Char)) (M : Marked) :
    ∃ ks S, sectionsFrom title M = ⟨title, ks⟩ :: S := by
  induction M generalizing title with
  | nil => exact ⟨_, _, rfl⟩
  | cons m M ih =>
    obtain ⟨t, l⟩ := m
    cases t with
    | none =>
      obtain ⟨ks, S, hs⟩ := ih title
      exact ⟨l :: ks, S, by rw [sectionsFrom, hs]; rfl⟩
    | some t => exact ⟨_, _, rfl⟩

theorem flatMap_lines_sectionsFrom (title : Option (List Char)) (M : Marked) :
    (sectionsFrom title M).flatMap (·.lines) = M.map (·.2) := by
  induction M generalizing title with
  | nil => rfl
  | cons m M ih =>
    obtain ⟨t, l⟩ := m
    cases t with
    | none =>
      obtain ⟨ks, S, hs⟩ := exists_sectionsFrom title M
      have hM := ih title
      rw [hs] at hM
      rw [sectionsFrom, hs, addToFirst, List.map_cons, ← hM]
      rfl
    | some t =>
      obtain ⟨ks, S, hs⟩ := exists_sectionsFrom (some (normalizeTitle t)) M
      have hM := ih (some (normalizeTitle t))
      rw [hs] at hM
      rw [sectionsFrom, hs, addToFirst, List.map_cons, ← hM]
      rfl

theorem filterMap_title_sectionsFrom (title : Option (List Char)) (M : Marked) :
    (sectionsFrom title M).filterMap (·.title) =
      title.toList ++ (M.filterMap (·.1)).map normalizeTitle := by
  induction M generalizing title with
  | nil => cases title <;> rfl
  | cons m M ih =>
    obtain ⟨t, l⟩ := m
    cases t with
    | none =>
      obtain ⟨ks, S, hs⟩ := exists_sectionsFrom title M
      have hM := ih title
      rw [hs] at hM
      rw [sectionsFrom, hs]
      exact hM
    | some t =>
      obtain ⟨ks, S, hs⟩ := exists_sectionsFrom (some (normalizeTitle t)) M
      have hM := ih (some (normalizeTitle t))
      rw [hs] at hM
      rw [sectionsFrom, hs]
      cases title <;> simpa [addToFirst] using hM

/-- Any sections but the first, in order, are a selection, with or without the lines of the first,
and a scan finds them again. -/
theorem exists_selected_sections (hs : sectionsFrom title M = s :: S) (hT : T.Sublist S)
    (keeping : Bool) :
    ∃ K, Selected keeping M K ∧
      ∀ u, sectionsFrom u K = ⟨u, if keeping then s.lines else []⟩ :: T := by
  induction M generalizing title s S T keeping with
  | nil =>
    obtain ⟨rfl, rfl⟩ := List.cons.inj hs
    rw [List.sublist_nil] at hT
    subst hT
    exact ⟨[], .nil, fun u => by simp [sectionsFrom]⟩
  | cons m M ih =>
    obtain ⟨t, l⟩ := m
    cases t with
    | none =>
      obtain ⟨ks, S', hs'⟩ := exists_sectionsFrom title M
      rw [sectionsFrom, hs'] at hs
      obtain ⟨rfl, rfl⟩ := List.cons.inj hs
      obtain ⟨K, hK, hl⟩ := ih hs' hT keeping
      cases keeping with
      | true => exact ⟨(none, l) :: K, hK.keep, fun u => by simp [sectionsFrom, hl, addToFirst]⟩
      | false => exact ⟨K, hK.drop, hl⟩
    | some t =>
      obtain ⟨ks, S', hs'⟩ := exists_sectionsFrom (some (normalizeTitle t)) M
      rw [sectionsFrom, hs'] at hs
      obtain ⟨rfl, rfl⟩ := List.cons.inj hs
      cases hT with
      | cons _ hT =>
        obtain ⟨K, hK, hl⟩ := ih hs' hT false
        exact ⟨K, hK.pass, fun u => by simpa using hl u⟩
      | cons_cons _ hT =>
        obtain ⟨K, hK, hl⟩ := ih hs' hT true
        exact ⟨(some t, l) :: K, hK.enter, fun u => by simp [sectionsFrom, hl, addToFirst]⟩

theorem isOperational_iff : isOperational t = true ↔ IsOperationalTitle (normalizeTitle t) := by
  simp [isOperational, IsOperationalTitle]

theorem keptLines_eq (hs : sectionsFrom title M = s :: S) (keeping : Bool) :
    keptLines keeping M =
      (if keeping then s.lines else []) ++
        (S.filter fun s => ¬ s.IsOperational).flatMap (·.lines) := by
  induction M generalizing title s S keeping with
  | nil =>
    obtain ⟨rfl, rfl⟩ := List.cons.inj hs
    simp [keptLines]
  | cons m M ih =>
    obtain ⟨t, l⟩ := m
    cases t with
    | none =>
      obtain ⟨ks, S', hs'⟩ := exists_sectionsFrom title M
      rw [sectionsFrom, hs'] at hs
      obtain ⟨rfl, rfl⟩ := List.cons.inj hs
      cases keeping <;> simp [keptLines, ih hs']
    | some t =>
      obtain ⟨ks, S', hs'⟩ := exists_sectionsFrom (some (normalizeTitle t)) M
      rw [sectionsFrom, hs', addToFirst] at hs
      obtain ⟨rfl, rfl⟩ := List.cons.inj hs
      have hop : Section.IsOperational ⟨some (normalizeTitle t), l :: ks⟩ ↔
          isOperational t = true := by
        simp [Section.IsOperational, isOperational_iff]
      cases ho : isOperational t <;> simp [keptLines, ho, hop, ih hs']

/-- The kept lines are those of the sections that are not operational, and a scan of them finds
these sections again. -/
theorem exists_selected_keptLines (M : Marked) :
    ∃ K, Selected true M K ∧ K.map (·.2) = keptLines true M ∧
      sectionsFrom none K = (sectionsFrom none M).filter fun s => ¬ s.IsOperational := by
  obtain ⟨ks, S, hs⟩ := exists_sectionsFrom none M
  obtain ⟨K, hK, hl⟩ := exists_selected_sections hs List.filter_sublist true
  have hfirst : ¬ Section.IsOperational ⟨none, ks⟩ := by simp [Section.IsOperational]
  refine ⟨K, hK, ?_, ?_⟩
  · rw [← flatMap_lines_sectionsFrom none K, hl none, keptLines_eq hs true]
    rfl
  · rw [hl none, hs, List.filter_cons_of_pos (by simpa using hfirst)]
    rfl

end TierRouting.Prompt
