import TierRouting.Proofs.Text.Splitting
import TierRouting.Text.Lines

/-! What the removal of phrases leaves of a text, and where the text may be cut beforehand. -/
namespace TierRouting.Text

variable {c : Char} {a b t u v w x y cs : List Char} {ps : List (List Char)}

theorem eraseFrom_eq_erase (w : List Char) (k : Nat) (cs : List Char) :
    eraseFrom w k cs = erase w (cs.drop k) := by
  induction k generalizing cs with
  | zero => rfl
  | succ k ih =>
    cases cs with
    | nil => rfl
    | cons c r => exact ih r

@[simp] theorem erase_nil : erase w [] = [] := rfl

theorem erase_append_self (hw : w ≠ []) : erase w (w ++ cs) = erase w cs := by
  obtain ⟨d, v, rfl⟩ := List.exists_cons_of_ne_nil hw
  have hp : (d :: v).isPrefixOf (d :: (v ++ cs)) = true :=
    List.isPrefixOf_iff_prefix.mpr (List.prefix_append (d :: v) cs)
  rw [List.cons_append, erase, eraseFrom, if_pos hp, eraseFrom_eq_erase]
  simp

theorem erase_cons (h : ¬ w <+: c :: cs) : erase w (c :: cs) = c :: erase w cs := by
  have hp : ¬ w.isPrefixOf (c :: cs) = true := fun e => h (List.isPrefixOf_iff_prefix.mp e)
  rw [erase, eraseFrom, if_neg hp]
  rfl

/-- The removal follows a text from left to right, past an occurrence or past a character. -/
theorem erase_induction {motive : List Char → Prop} (hw : w ≠ []) (nil : motive [])
    (past : ∀ r, motive r → motive (w ++ r))
    (keep : ∀ c r, ¬ w <+: c :: r → motive r → motive (c :: r)) (cs : List Char) : motive cs := by
  induction hn : cs.length using Nat.strongRecOn generalizing cs with
  | ind n ih =>
    cases cs with
    | nil => exact nil
    | cons c r =>
      by_cases hp : w <+: c :: r
      · obtain ⟨s, hs⟩ := hp
        rw [← hs] at hn ⊢
        have hpos : 0 < w.length := List.length_pos_iff.mpr hw
        rw [List.length_append] at hn
        exact past s (ih s.length (by omega) s rfl)
      · exact keep c r hp (ih r.length (by simp [← hn]) r rfl)

theorem erase_eq_self (h : ¬ w <:+: cs) : erase w cs = cs := by
  induction cs with
  | nil => rfl
  | cons c r ih =>
    have hp : ¬ w <+: c :: r := fun e => h e.isInfix
    rw [erase_cons hp, ih fun e => h (List.infix_cons e)]

theorem erase_sublist (hw : w ≠ []) (cs : List Char) : (erase w cs).Sublist cs := by
  induction cs using erase_induction hw with
  | nil => exact .slnil
  | past r ih =>
    rw [erase_append_self hw]
    exact ih.trans (List.sublist_append_right w r)
  | keep c r hp ih =>
    rw [erase_cons hp]
    exact ih.cons_cons c

theorem length_erase_lt (hw : w ≠ []) (h : w <:+: cs) : (erase w cs).length < cs.length := by
  induction cs using erase_induction hw with
  | nil => exact absurd (List.infix_nil.mp h) hw
  | past r =>
    have hpos := List.length_pos_iff.mpr hw
    have hle := (erase_sublist hw r).length_le
    rw [erase_append_self hw, List.length_append]
    omega
  | keep c r hp ih =>
    have hr := ih ((List.infix_cons_iff.mp h).resolve_left hp)
    rw [erase_cons hp, List.length_cons, List.length_cons]
    omega

theorem erase_eq_self_iff (hw : w ≠ []) : erase w cs = cs ↔ ¬ w <:+: cs := by
  constructor
  · intro he h
    have hlt := length_erase_lt hw h
    rw [he] at hlt
    exact Nat.lt_irrefl _ hlt
  · exact erase_eq_self

/-- The cut between two texts runs through an occurrence of `w`. -/
def Straddles (w x y : List Char) : Prop :=
  ∃ s r, s ≠ [] ∧ r ≠ [] ∧ s ++ r = w ∧ s <:+ x ∧ r <+: y

theorem erase_append (hw : w ≠ []) (h : ¬ Straddles w x y) :
    erase w (x ++ y) = erase w x ++ erase w y := by
  induction x using erase_induction hw with
  | nil => rfl
  | past r ih =>
    have hr : ¬ Straddles w r y := by
      rintro ⟨s, q, hs, hq, e, hsuf, hpre⟩
      exact h ⟨s, q, hs, hq, e, hsuf.trans (List.suffix_append w r), hpre⟩
    rw [List.append_assoc, erase_append_self hw, erase_append_self hw, ih hr]
  | keep c r hp ih =>
    have hr : ¬ Straddles w r y := by
      rintro ⟨s, q, hs, hq, e, hsuf, hpre⟩
      exact h ⟨s, q, hs, hq, e, hsuf.trans (List.suffix_cons c r), hpre⟩
    have hpy : ¬ w <+: c :: (r ++ y) := by
      intro hpy
      rcases List.prefix_or_prefix_of_prefix hpy (List.prefix_append (c :: r) y) with hw | hx
      · exact hp hw
      · obtain ⟨q, rfl⟩ := hx
        have hq : q ≠ [] := by
          rintro rfl
          exact hp (by simp)
        exact h ⟨c :: r, q, by simp, hq, rfl, List.suffix_rfl,
          (List.prefix_append_right_inj (c :: r)).mp hpy⟩
    rw [List.cons_append, erase_cons hpy, erase_cons hp, ih hr, List.cons_append]

/-- A cut of what is left comes from a cut of the text. -/
theorem exists_cut_of_erase (hw : w ≠ []) (h : erase w t = x ++ y) :
    ∃ a b, t = a ++ b ∧ erase w a = x ∧ erase w b = y := by
  induction t using erase_induction hw generalizing x with
  | nil =>
    obtain ⟨rfl, rfl⟩ := List.append_eq_nil_iff.mp h.symm
    exact ⟨[], [], rfl, rfl, rfl⟩
  | past r ih =>
    rw [erase_append_self hw] at h
    obtain ⟨a, b, rfl, ha, hb⟩ := ih h
    exact ⟨w ++ a, b, by simp, by rw [erase_append_self hw, ha], hb⟩
  | keep c r hp ih =>
    rw [erase_cons hp] at h
    cases x with
    | nil => exact ⟨[], c :: r, rfl, rfl, by rw [erase_cons hp]; exact h⟩
    | cons d x =>
      obtain ⟨rfl, hr⟩ := List.cons.inj h
      obtain ⟨a, b, rfl, ha, hb⟩ := ih hr
      have hpa : ¬ w <+: c :: a := fun e => hp (e.trans (List.prefix_append (c :: a) b))
      exact ⟨c :: a, b, rfl, by rw [erase_cons hpa, ha], hb⟩

/-- Removes the phrases one after the other. -/
def eraseAll (ps : List (List Char)) (cs : List Char) : List Char :=
  ps.foldl (fun text p => erase p text) cs

@[simp] theorem eraseAll_nil : eraseAll [] cs = cs := rfl

@[simp] theorem eraseAll_cons : eraseAll (w :: ps) cs = eraseAll ps (erase w cs) := rfl

theorem eraseAll_empty (ps : List (List Char)) : eraseAll ps [] = [] := by
  induction ps with
  | nil => rfl
  | cons p ps ih => exact ih

theorem eraseAll_eq_self (h : ∀ p ∈ ps, ¬ p <:+: cs) : eraseAll ps cs = cs := by
  induction ps with
  | nil => rfl
  | cons p ps ih =>
    rw [eraseAll_cons, erase_eq_self (h p List.mem_cons_self)]
    exact ih fun q hq => h q (List.mem_cons_of_mem p hq)

theorem eraseAll_sublist (hps : ∀ p ∈ ps, p ≠ []) (cs : List Char) :
    (eraseAll ps cs).Sublist cs := by
  induction ps generalizing cs with
  | nil => exact .refl cs
  | cons p ps ih =>
    have hrest := ih (fun q hq => hps q (List.mem_cons_of_mem p hq)) (erase p cs)
    exact hrest.trans (erase_sublist (hps p List.mem_cons_self) cs)

/-- Removals only take away, so that none of them can undo another. -/
theorem eraseAll_eq_self_iff (hps : ∀ p ∈ ps, p ≠ []) :
    eraseAll ps cs = cs ↔ ∀ p ∈ ps, ¬ p <:+: cs := by
  constructor
  · intro he
    induction ps with
    | nil => simp
    | cons p ps ih =>
      have hp : p ≠ [] := hps p List.mem_cons_self
      have hrest : ∀ q ∈ ps, q ≠ [] := fun q hq => hps q (List.mem_cons_of_mem p hq)
      have hback : cs.Sublist (erase p cs) := by
        have hsub := eraseAll_sublist hrest (erase p cs)
        rwa [← eraseAll_cons, he] at hsub
      have hfirst : erase p cs = cs := (erase_sublist hp cs).eq_of_length_le hback.length_le
      rw [eraseAll_cons, hfirst] at he
      exact List.forall_mem_cons.mpr ⟨(erase_eq_self_iff hp).mp hfirst, ih hrest he⟩
  · exact eraseAll_eq_self

theorem mem_of_mem_eraseAll (hps : ∀ p ∈ ps, p ≠ []) (h : c ∈ eraseAll ps cs) : c ∈ cs :=
  (eraseAll_sublist hps cs).subset h

theorem exists_cut_of_eraseAll (hps : ∀ p ∈ ps, p ≠ []) (h : eraseAll ps t = x ++ y) :
    ∃ a b, t = a ++ b ∧ eraseAll ps a = x ∧ eraseAll ps b = y := by
  induction ps generalizing t with
  | nil => exact ⟨x, y, h, rfl, rfl⟩
  | cons p ps ih =>
    obtain ⟨a, b, hab, ha, hb⟩ := ih (fun q hq => hps q (List.mem_cons_of_mem p hq)) h
    obtain ⟨a, b, rfl, rfl, rfl⟩ := exists_cut_of_erase (hps p List.mem_cons_self) hab
    exact ⟨a, b, rfl, ha, hb⟩

/-- Whatever is left in one piece comes from one piece of the text. -/
theorem exists_infix_of_infix_eraseAll (hps : ∀ p ∈ ps, p ≠ []) (h : v <:+: eraseAll ps t) :
    ∃ u, u <:+: t ∧ eraseAll ps u = v := by
  obtain ⟨x, y, h⟩ := h
  obtain ⟨a, b, rfl, ha, -⟩ := exists_cut_of_eraseAll hps h.symm
  obtain ⟨x, u, rfl, -, hu⟩ := exists_cut_of_eraseAll hps ha
  exact ⟨u, List.infix_append x u b, hu⟩

theorem erase_append_newline (hw : w ≠ []) (hn : '\n' ∉ w) :
    erase w (a ++ '\n' :: b) = erase w a ++ '\n' :: erase w b := by
  have hcut : ¬ Straddles w a ('\n' :: b) := by
    rintro ⟨s, r, -, hr, rfl, -, hp⟩
    rcases List.prefix_cons_iff.mp hp with rfl | ⟨q, rfl, -⟩
    · exact hr rfl
    · simp at hn
  have hp : ¬ w <+: '\n' :: b := by
    intro hp
    rcases List.prefix_cons_iff.mp hp with rfl | ⟨q, rfl, -⟩
    · exact hw rfl
    · simp at hn
  rw [erase_append hw hcut, erase_cons hp]

theorem eraseAll_append_newline (hps : ∀ p ∈ ps, p ≠ [] ∧ '\n' ∉ p) :
    eraseAll ps (a ++ '\n' :: b) = eraseAll ps a ++ '\n' :: eraseAll ps b := by
  induction ps generalizing a b with
  | nil => rfl
  | cons p ps ih =>
    obtain ⟨hp, hn⟩ := hps p List.mem_cons_self
    rw [eraseAll_cons, erase_append_newline hp hn,
      ih fun q hq => hps q (List.mem_cons_of_mem p hq)]
    rfl

/-- Phrases that lie on one line are removed line by line. -/
theorem eraseAll_unlines (hps : ∀ p ∈ ps, p ≠ [] ∧ '\n' ∉ p) (ls : List (List Char)) :
    eraseAll ps (unlines ls) = unlines (ls.map (eraseAll ps)) := by
  induction ls with
  | nil => exact eraseAll_empty ps
  | cons l ls ih =>
    by_cases hls : ls = []
    · subst hls
      rfl
    · have hu : unlines (l :: ls) = l ++ '\n' :: unlines ls := joinWith_cons hls
      rw [hu, eraseAll_append_newline hps, ih]
      exact (joinWith_cons (by simp [hls])).symm

/-- Phrases of which no two can overlap: the first character of each stands nowhere else in any
of them, and none begins another. -/
structure Separate (ws : List (List Char)) : Prop where
  ne_nil : ∀ w ∈ ws, w ≠ []
  head_not_mem_tail : ∀ v ∈ ws, ∀ w ∈ ws, ∀ c ∈ v.head?, c ∉ w.tail
  eq_of_prefix : ∀ v ∈ ws, ∀ w ∈ ws, v <+: w → v = w

namespace Separate

variable {ws : List (List Char)}

/-- The text begins like one of the phrases. -/
def Starts (ws : List (List Char)) (u : List Char) : Prop := ∃ v ∈ ws, ∃ c ∈ v.head?, c ∈ u.head?

/-- No phrase is begun at the end of the text without being finished there. -/
def NoneBegun (ws : List (List Char)) (u : List Char) : Prop :=
  ∀ v ∈ ws, ∀ s r, s ≠ [] → r ≠ [] → s ++ r = v → ¬ s <:+ u

theorem starts_of_mem (hs : Separate ws) (hw : w ∈ ws) : Starts ws w := by
  obtain ⟨c, r, rfl⟩ := List.exists_cons_of_ne_nil (hs.ne_nil w hw)
  exact ⟨c :: r, hw, c, rfl, rfl⟩

theorem starts_append (h : Starts ws u) : Starts ws (u ++ y) := by
  obtain ⟨v, hv, c, hc, hcu⟩ := h
  exact ⟨v, hv, c, hc, by rw [List.head?_append]; simp_all⟩

theorem not_straddles_of_starts (hs : Separate ws) (hw : w ∈ ws) (hy : Starts ws y) :
    ¬ Straddles w x y := by
  rintro ⟨s, r, hs0, hr, rfl, -, hp⟩
  obtain ⟨v, hv, c, hc, hcy⟩ := hy
  obtain ⟨d, r, rfl⟩ := List.exists_cons_of_ne_nil hr
  obtain ⟨e, s, rfl⟩ := List.exists_cons_of_ne_nil hs0
  obtain ⟨q, rfl⟩ := hp
  have hdc : d = c := by simpa using hcy
  exact hs.head_not_mem_tail v hv _ hw c hc (by simp [hdc])

theorem not_straddles_of_noneBegun (hw : w ∈ ws) (hx : NoneBegun ws x) : ¬ Straddles w x y := by
  rintro ⟨s, r, hs, hr, e, hsuf, -⟩
  exact hx w hw s r hs hr e hsuf

theorem starts_of_erase (hs : Separate ws) (hw : w ∈ ws) (h : Starts ws (erase w u)) :
    Starts ws u := by
  obtain ⟨v, hv, c, hc, hcu⟩ := h
  cases u with
  | nil => simp at hcu
  | cons d r =>
    by_cases hp : w <+: d :: r
    · obtain ⟨e, q, rfl⟩ := List.exists_cons_of_ne_nil (hs.ne_nil w hw)
      obtain ⟨rfl, -⟩ := List.cons_prefix_cons.mp hp
      exact ⟨_, hw, e, rfl, rfl⟩
    · rw [erase_cons hp] at hcu
      exact ⟨v, hv, c, hc, hcu⟩

theorem noneBegun_of_mem (hs : Separate ws) (hw : w ∈ ws) : NoneBegun ws w := by
  rintro v hv s r hs0 hr rfl hsuf
  obtain ⟨c, s, rfl⟩ := List.exists_cons_of_ne_nil hs0
  obtain ⟨d, q, rfl⟩ := List.exists_cons_of_ne_nil (hs.ne_nil w hw)
  rcases List.suffix_cons_iff.mp hsuf with he | hsuf
  · have hv' := hs.eq_of_prefix _ hw _ hv (he ▸ List.prefix_append (c :: s) r)
    rw [← he] at hv'
    exact hr (by simpa using hv')
  · exact hs.head_not_mem_tail _ hv _ hw c rfl (hsuf.subset List.mem_cons_self)

/-- The beginning of a phrase contains no phrase. -/
theorem erase_begun (hs : Separate ws) (hw : w ∈ ws) {s r : List Char} (hr : r ≠ [])
    (hv : s ++ r ∈ ws) : erase w s = s := by
  apply erase_eq_self
  rintro ⟨x, y, rfl⟩
  cases x with
  | nil =>
    have he : w = w ++ (y ++ r) := by
      apply hs.eq_of_prefix w hw _ (by simpa using hv)
      exact List.prefix_append w (y ++ r)
    have : y ++ r = [] := by simpa using he
    exact hr (List.append_eq_nil_iff.mp this).2
  | cons c x =>
    obtain ⟨d, q, rfl⟩ := List.exists_cons_of_ne_nil (hs.ne_nil w hw)
    exact hs.head_not_mem_tail _ hw _ hv d rfl (by simp)

theorem noneBegun_of_erase (hs : Separate ws) (hw : w ∈ ws) (h : NoneBegun ws (erase w u)) :
    NoneBegun ws u := by
  rintro v hv s r hs0 hr rfl ⟨x, rfl⟩
  obtain ⟨c, s, rfl⟩ := List.exists_cons_of_ne_nil hs0
  have hcut : ¬ Straddles w x (c :: s) :=
    hs.not_straddles_of_starts hw ⟨_, hv, c, rfl, rfl⟩
  rw [erase_append (hs.ne_nil w hw) hcut, hs.erase_begun hw hr hv] at h
  exact h _ hv (c :: s) r hs0 hr rfl (List.suffix_append _ _)

theorem starts_of_eraseAll (hs : Separate ws) (hps : ∀ p ∈ ps, p ∈ ws)
    (h : Starts ws (eraseAll ps u)) : Starts ws u := by
  induction ps generalizing u with
  | nil => exact h
  | cons p ps ih =>
    exact hs.starts_of_erase (hps p List.mem_cons_self)
      (ih (fun q hq => hps q (List.mem_cons_of_mem p hq)) h)

theorem noneBegun_of_eraseAll (hs : Separate ws) (hps : ∀ p ∈ ps, p ∈ ws)
    (h : NoneBegun ws (eraseAll ps u)) : NoneBegun ws u := by
  induction ps generalizing u with
  | nil => exact h
  | cons p ps ih =>
    exact hs.noneBegun_of_erase (hps p List.mem_cons_self)
      (ih (fun q hq => hps q (List.mem_cons_of_mem p hq)) h)

/-- A piece that reduces to a phrase does so wherever it stands. -/
theorem eraseAll_around (hs : Separate ws) (hps : ∀ p ∈ ps, p ∈ ws)
    (hu : Starts ws (eraseAll ps u)) (hn : NoneBegun ws (eraseAll ps u)) :
    eraseAll ps (x ++ u ++ y) = eraseAll ps x ++ eraseAll ps u ++ eraseAll ps y := by
  induction ps generalizing x u y with
  | nil => rfl
  | cons p ps ih =>
    have hp : p ∈ ws := hps p List.mem_cons_self
    have hq : ∀ q ∈ ps, q ∈ ws := fun q hq => hps q (List.mem_cons_of_mem p hq)
    have hstart : Starts ws u := hs.starts_of_eraseAll hps hu
    have hleft : ¬ Straddles p x (u ++ y) := hs.not_straddles_of_starts hp (starts_append hstart)
    have hright : ¬ Straddles p u y :=
      not_straddles_of_noneBegun hp (hs.noneBegun_of_eraseAll hps hn)
    have hne := hs.ne_nil p hp
    rw [List.append_assoc, eraseAll_cons, erase_append hne hleft, erase_append hne hright,
      ← List.append_assoc, ih hq hu hn]
    rfl

/-- A phrase is left behind just when some piece of the text reduces to it. -/
theorem infix_eraseAll_iff (hs : Separate ws) (hps : ∀ p ∈ ps, p ∈ ws) (hw : w ∈ ws) :
    w <:+: eraseAll ps t ↔ ∃ u, u <:+: t ∧ eraseAll ps u = w := by
  constructor
  · exact exists_infix_of_infix_eraseAll fun p hp => hs.ne_nil p (hps p hp)
  · rintro ⟨u, ⟨x, y, rfl⟩, rfl⟩
    rw [hs.eraseAll_around hps (hs.starts_of_mem hw) (hs.noneBegun_of_mem hw)]
    exact List.infix_append _ _ _

end Separate
end TierRouting.Text
