import TierRouting.Text.Pattern

/-! Matches of patterns: the text that a match takes, and matches in a text that goes on. -/
namespace TierRouting.Text

variable {c : Char} {before : Option Char} {cs more text u v : List Char} {q e : Position}
  {p : Char → Bool} {least : Nat} {most : Option Nat} {a b : Pattern} {ps : List Pattern}

/-- The same place in a text that goes on. -/
def Position.extend (q : Position) (more : List Char) : Position := ⟨q.before, q.rest ++ more⟩

/-- A text that goes on like this has the same last word. -/
def EndsWord (more : List Char) : Prop := more.head?.any isWordChar = false

namespace Pattern

/-- No part of the pattern asks for the end of the text. -/
def isOpenEnded : Pattern → Bool
  | edge .textEnd => false
  | seq a b => a.isOpenEnded && b.isOpenEnded
  | alt a b => a.isOpenEnded && b.isOpenEnded
  | star a => a.isOpenEnded
  | _ => true

theorem mem_spanEnds_extend (h : e ∈ spanEnds p cs least most before) :
    e.extend more ∈ spanEnds p (cs ++ more) least most before := by
  induction cs generalizing least most before with
  | nil =>
    rw [spanEnds, List.mem_ite_nil_right, List.mem_singleton] at h
    obtain ⟨rfl, rfl⟩ := h
    cases more <;> simp [spanEnds, Position.extend]
  | cons c r ih =>
    rw [spanEnds, List.mem_append, List.mem_ite_nil_right, List.mem_ite_nil_right] at h
    rw [List.cons_append, spanEnds, List.mem_append, List.mem_ite_nil_right,
      List.mem_ite_nil_right]
    rcases h with ⟨hleast, he⟩ | ⟨hp, he⟩
    · obtain rfl := List.mem_singleton.mp he
      exact Or.inl ⟨hleast, List.mem_singleton.mpr rfl⟩
    · exact Or.inr ⟨hp, ih he⟩

theorem mem_closure_extend {step : Position → List Position} {n k : Nat} (hn : n ≤ k)
    (hstep : ∀ q e, e ∈ step q → e.extend more ∈ step (q.extend more))
    (h : e ∈ closure step n q) : e.extend more ∈ closure step k (q.extend more) := by
  induction n generalizing q k with
  | zero =>
    rw [closure, List.mem_singleton] at h
    subst h
    cases k <;> simp [closure]
  | succ n ih =>
    obtain ⟨k, rfl⟩ : ∃ j, k = j + 1 := ⟨k - 1, by omega⟩
    rw [closure, List.mem_cons, List.mem_flatMap] at h ⊢
    rcases h with rfl | ⟨r, hr, hrest⟩
    · exact Or.inl rfl
    · rw [List.mem_filter, decide_eq_true_eq] at hr
      refine Or.inr ⟨r.extend more, ?_, ih (by omega) hrest⟩
      rw [List.mem_filter, decide_eq_true_eq]
      refine ⟨hstep q r hr.1, ?_⟩
      simpa [Position.extend] using hr.2

theorem holds_extend {x : Edge} (hx : (edge x).isOpenEnded = true) (hmore : EndsWord more)
    (h : x.holds q = true) : x.holds (q.extend more) = true := by
  cases x with
  | textEnd => simp [isOpenEnded] at hx
  | textStart => exact h
  | lineStart => exact h
  | word =>
    obtain ⟨before, rest⟩ := q
    cases rest with
    | nil =>
      rw [EndsWord] at hmore
      simpa [Edge.holds, Position.extend, hmore] using h
    | cons c r => exact h

theorem mem_ends_edge {x : Edge} : e ∈ (edge x).ends q ↔ x.holds q = true ∧ e = q := by
  rw [ends, List.mem_ite_nil_right, List.mem_singleton]

/-- A match stays one when the text goes on behind its last word. -/
theorem mem_ends_extend (ha : a.isOpenEnded = true) (hmore : EndsWord more) (h : e ∈ a.ends q) :
    e.extend more ∈ a.ends (q.extend more) := by
  induction a generalizing q e with
  | empty =>
    rw [ends, List.mem_singleton] at h
    simp [ends, h]
  | edge x =>
    obtain ⟨hx, rfl⟩ := mem_ends_edge.mp h
    exact mem_ends_edge.mpr ⟨holds_extend ha hmore hx, rfl⟩
  | one p =>
    obtain ⟨before, rest⟩ := q
    cases rest with
    | nil => simp [ends] at h
    | cons c r =>
      cases hc : p c with
      | false => simp [ends, hc] at h
      | true =>
        have he : e = ⟨some c, r⟩ := by simpa [ends, hc] using h
        simp [ends, Position.extend, hc, he]
  | seq a b iha ihb =>
    rw [isOpenEnded, Bool.and_eq_true] at ha
    rw [ends, List.mem_flatMap] at h ⊢
    obtain ⟨r, hr, he⟩ := h
    exact ⟨r.extend more, iha ha.1 hr, ihb ha.2 he⟩
  | alt a b iha ihb =>
    rw [isOpenEnded, Bool.and_eq_true] at ha
    rw [ends, List.mem_append] at h ⊢
    exact h.imp (iha ha.1) (ihb ha.2)
  | span p least most => exact mem_spanEnds_extend h
  | star a ih =>
    rw [ends] at h ⊢
    refine mem_closure_extend ?_ (fun r d hd => ih ha hd) h
    simp [Position.extend]

theorem getLast?_or_cons (c : Char) (u : List Char) (before : Option Char) :
    (c :: u).getLast?.or before = u.getLast?.or (some c) := by
  cases h : u.getLast? <;> simp [List.getLast?_cons, h]

/-- A pattern occurs in a text just when some match starts at one of its places. -/
theorem searchFrom_iff :
    a.searchFrom before text = true ↔
      ∃ u r e, text = u ++ r ∧ e ∈ a.ends ⟨u.getLast?.or before, r⟩ := by
  have hhere : ∀ q, (!(a.ends q).isEmpty) = true ↔ ∃ e, e ∈ a.ends q := by
    intro q
    cases a.ends q <;> simp
  induction text generalizing before with
  | nil =>
    rw [searchFrom, hhere]
    constructor
    · rintro ⟨e, he⟩
      exact ⟨[], [], e, rfl, he⟩
    · rintro ⟨u, r, e, hu, he⟩
      obtain ⟨rfl, rfl⟩ := List.append_eq_nil_iff.mp hu.symm
      exact ⟨e, he⟩
  | cons c r ih =>
    rw [searchFrom, Bool.or_eq_true, hhere]
    constructor
    · rintro (⟨e, he⟩ | hlater)
      · exact ⟨[], c :: r, e, rfl, he⟩
      · obtain ⟨u, s, e, rfl, he⟩ := ih.mp hlater
        exact ⟨c :: u, s, e, rfl, by rwa [getLast?_or_cons]⟩
    · rintro ⟨u, s, e, hu, he⟩
      cases u with
      | nil =>
        obtain rfl : c :: r = s := hu
        exact Or.inl ⟨e, he⟩
      | cons d u =>
        obtain ⟨rfl, rfl⟩ := List.cons.inj hu
        exact Or.inr (ih.mpr ⟨u, s, e, rfl, by rwa [getLast?_or_cons] at he⟩)

theorem occursIn_extend (ha : a.isOpenEnded = true) (hmore : EndsWord more)
    (h : a.occursIn text = true) : a.occursIn (text ++ more) = true := by
  rw [occursIn, searchFrom_iff] at h ⊢
  obtain ⟨u, r, e, rfl, he⟩ := h
  exact ⟨u, r ++ more, e.extend more, List.append_assoc .., mem_ends_extend ha hmore he⟩

/-- The texts that a match may take, whatever its edges ask for. -/
def Spells : Pattern → List Char → Prop
  | empty, u => u = []
  | edge _, u => u = []
  | one p, u => ∃ c, p c = true ∧ u = [c]
  | seq a b, u => ∃ v w, a.Spells v ∧ b.Spells w ∧ u = v ++ w
  | alt a b, u => a.Spells u ∨ b.Spells u
  | span p least _, u => least ≤ u.length ∧ ∀ c ∈ u, p c = true
  | star a, u => ∃ vs : List (List Char), (∀ v ∈ vs, a.Spells v) ∧ u = vs.flatten

theorem exists_spells_of_mem_spanEnds (h : e ∈ spanEnds p cs least most before) :
    ∃ u, (span p least most).Spells u ∧ cs = u ++ e.rest := by
  induction cs generalizing least most before with
  | nil =>
    rw [spanEnds, List.mem_ite_nil_right, List.mem_singleton] at h
    obtain ⟨rfl, rfl⟩ := h
    exact ⟨[], ⟨Nat.le_refl 0, nofun⟩, rfl⟩
  | cons c r ih =>
    rw [spanEnds, List.mem_append, List.mem_ite_nil_right, List.mem_ite_nil_right] at h
    rcases h with ⟨hleast, he⟩ | ⟨hp, he⟩
    · obtain rfl := List.mem_singleton.mp he
      exact ⟨[], ⟨by simp [hleast], nofun⟩, rfl⟩
    · obtain ⟨u, ⟨hu, hall⟩, rfl⟩ := ih he
      refine ⟨c :: u, ⟨?_, List.forall_mem_cons.mpr ⟨hp.2, hall⟩⟩, rfl⟩
      rw [List.length_cons]
      omega

theorem exists_spells_of_mem_closure {step : Position → List Position} {n : Nat}
    {S : List Char → Prop} (hstep : ∀ q e, e ∈ step q → ∃ u, S u ∧ q.rest = u ++ e.rest)
    (h : e ∈ closure step n q) :
    ∃ vs : List (List Char), (∀ v ∈ vs, S v) ∧ q.rest = vs.flatten ++ e.rest := by
  induction n generalizing q with
  | zero =>
    rw [closure, List.mem_singleton] at h
    exact ⟨[], by simp, by simp [h]⟩
  | succ n ih =>
    rw [closure, List.mem_cons, List.mem_flatMap] at h
    rcases h with rfl | ⟨r, hr, hrest⟩
    · exact ⟨[], by simp, rfl⟩
    · obtain ⟨u, hu, hq⟩ := hstep q r (List.mem_filter.mp hr).1
      obtain ⟨vs, hvs, hr⟩ := ih hrest
      exact ⟨u :: vs, List.forall_mem_cons.mpr ⟨hu, hvs⟩, by simp [hq, hr]⟩

/-- A match takes a text that the pattern spells. -/
theorem exists_spells_of_mem_ends (h : e ∈ a.ends q) : ∃ u, a.Spells u ∧ q.rest = u ++ e.rest := by
  induction a generalizing q e with
  | empty =>
    rw [ends, List.mem_singleton] at h
    exact ⟨[], rfl, by simp [h]⟩
  | edge x =>
    obtain ⟨-, rfl⟩ := mem_ends_edge.mp h
    exact ⟨[], rfl, rfl⟩
  | one p =>
    obtain ⟨before, rest⟩ := q
    cases rest with
    | nil => simp [ends] at h
    | cons c r =>
      cases hc : p c with
      | false => simp [ends, hc] at h
      | true =>
        have he : e = ⟨some c, r⟩ := by simpa [ends, hc] using h
        exact ⟨[c], ⟨c, hc, rfl⟩, by simp [he]⟩
  | seq a b iha ihb =>
    rw [ends, List.mem_flatMap] at h
    obtain ⟨r, hr, he⟩ := h
    obtain ⟨v, hv, hq⟩ := iha hr
    obtain ⟨w, hw, hr⟩ := ihb he
    exact ⟨v ++ w, ⟨v, w, hv, hw, rfl⟩, by simp [hq, hr]⟩
  | alt a b iha ihb =>
    rw [ends, List.mem_append] at h
    rcases h with h | h
    · obtain ⟨u, hu, hq⟩ := iha h
      exact ⟨u, Or.inl hu, hq⟩
    · obtain ⟨u, hu, hq⟩ := ihb h
      exact ⟨u, Or.inr hu, hq⟩
  | span p least most => exact exists_spells_of_mem_spanEnds h
  | star a ih =>
    obtain ⟨vs, hvs, hq⟩ := exists_spells_of_mem_closure (fun q e he => ih he) h
    exact ⟨vs.flatten, ⟨vs, hvs, rfl⟩, hq⟩

theorem exists_infix_of_occursIn (h : a.occursIn text = true) : ∃ u, a.Spells u ∧ u <:+: text := by
  rw [occursIn, searchFrom_iff] at h
  obtain ⟨u, r, e, rfl, he⟩ := h
  obtain ⟨v, hv, rfl⟩ := exists_spells_of_mem_ends he
  exact ⟨v, hv, u, e.rest, by simp⟩

@[simp] theorem spells_chars (cs : List Char) : (chars cs).Spells u ↔ u = cs := by
  induction cs generalizing u with
  | nil => rfl
  | cons c r ih =>
    cases r with
    | nil => simp [chars, Spells]
    | cons d r =>
      have hseq : (chars (c :: d :: r)).Spells u ↔
          ∃ v w, (one (· == c)).Spells v ∧ (chars (d :: r)).Spells w ∧ u = v ++ w := Iff.rfl
      rw [hseq]
      simp [ih, Spells]

theorem spells_anyOf : (anyOf ps).Spells u ↔ ∃ a ∈ ps, a.Spells u := by
  induction ps with
  | nil => simp [anyOf, Spells]
  | cons a r ih =>
    cases r with
    | nil => simp [anyOf]
    | cons b r =>
      rw [anyOf, Spells, ih]
      · simp
      · nofun

/-- Whatever text the pattern spells has the property. -/
def Forces (P : List Char → Prop) (a : Pattern) : Prop := ∀ u, a.Spells u → P u

section Forces

variable {P : List Char → Prop}

theorem forces_chars (h : P cs) : Forces P (chars cs) := by
  intro u hu
  rw [(spells_chars cs).mp hu]
  exact h

theorem forces_anyOf (h : ∀ a ∈ ps, Forces P a) : Forces P (anyOf ps) := by
  intro u hu
  obtain ⟨a, ha, hspells⟩ := spells_anyOf.mp hu
  exact h a ha u hspells

variable (hP : ∀ ⦃u v⦄, P u → u <:+: v → P v)
include hP

/-- A property that spreads to longer texts is forced by each part of a sequence. -/
theorem Forces.left (h : Forces P a) (b : Pattern) : Forces P (a ++ b) := by
  rintro _ ⟨u, v, hu, -, rfl⟩
  exact hP (h u hu) (List.prefix_append u v).isInfix

theorem Forces.right (h : Forces P b) (a : Pattern) : Forces P (a ++ b) := by
  rintro _ ⟨u, v, -, hv, rfl⟩
  exact hP (h v hv) (List.suffix_append u v).isInfix

theorem Forces.of_occursIn (ha : Forces P a) (h : a.occursIn text = true) : P text := by
  obtain ⟨u, hu, hinfix⟩ := exists_infix_of_occursIn h
  exact hP (ha u hu) hinfix

end Forces

end Pattern
end TierRouting.Text
