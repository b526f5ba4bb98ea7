import TierRouting.Signal.Classify

/-! What a trace of signals tells of the stages: which one settled the message, and how. -/
namespace TierRouting

variable {f : Features} {c : Float32} {s : Stage} {v w : Verdict} {signals part : List Signal}
  {table : List Stage} {trace : List Signal}

/-- What a trace shows of the rule behind a signal. -/
def Signal.tag (x : Signal) : String × Float32 := (x.name, x.weight)

def Rule.tag (r : Rule) : String × Float32 := (r.name, r.weight)

namespace Stage

def tags (s : Stage) : List (String × Float32) := s.rules.map Rule.tag

/-- The part shows every rule of the stage, and gives no verdict. -/
def Passes (s : Stage) (part : List Signal) : Prop :=
  part.map Signal.tag = s.tags ∧
    match s.decision with
    | .firstMatch _ => ∀ x ∈ part, x.isMatch = false
    | .accumulate judge => judge (score part) = none

/-- The part ends where the stage reaches its verdict. -/
def Settles (s : Stage) (part : List Signal) (v : Verdict) : Prop :=
  match s.decision with
  | .firstMatch w =>
    v = w ∧ part.map Signal.tag <+: s.tags ∧
      ∃ before last, part = before ++ [last] ∧ (∀ x ∈ before, x.isMatch = false) ∧
        last.isMatch = true
  | .accumulate judge => part.map Signal.tag = s.tags ∧ judge (score part) = some v

end Stage

/-- A trace cut into the parts that the stages recorded. -/
structure Reading where
  earlier : List (Stage × List Signal)
  decider : Stage
  part : List Signal
  later : List Stage
  verdict : Verdict

structure Reading.Reads (d : Reading) (table : List Stage) (trace : List Signal) : Prop where
  table_eq : table = d.earlier.map Prod.fst ++ d.decider :: d.later
  trace_eq : trace = d.earlier.flatMap Prod.snd ++ d.part
  passes : ∀ p ∈ d.earlier, p.1.Passes p.2
  settles : d.decider.Settles d.part d.verdict

/-- The complexity score that the next stage sees. -/
def Stage.complexityAfter (s : Stage) (f : Features) (complexity : Float32) : Float32 :=
  if s.scoresComplexity then score (s.evaluate f complexity) else complexity

/-- Every rule of every stage, evaluated. -/
def evaluateAll (f : Features) : List Stage → Float32 → List Signal
  | [], _ => []
  | s :: r, complexity =>
    s.evaluate f complexity ++ evaluateAll f r (s.complexityAfter f complexity)

def Classification.verdict (c : Classification) : Verdict := ⟨c.intent, c.confidence, c.reason⟩

theorem throughFirstMatch_eq_self (h : ∀ x ∈ signals, x.isMatch = false) :
    throughFirstMatch signals = signals := by
  induction signals with
  | nil => rfl
  | cons x rest ih =>
    have hx : x.isMatch = false := h x List.mem_cons_self
    have hrest := ih fun y hy => h y (List.mem_cons_of_mem _ hy)
    simp [throughFirstMatch, hx, hrest]

theorem throughFirstMatch_eq_append (h : signals.any (·.isMatch)) :
    ∃ before last, throughFirstMatch signals = before ++ [last] ∧
      (∀ x ∈ before, x.isMatch = false) ∧ last.isMatch = true := by
  induction signals with
  | nil => contradiction
  | cons x rest ih =>
    by_cases hx : x.isMatch = true
    · exact ⟨[], x, by simp [throughFirstMatch, hx], by simp, hx⟩
    · obtain ⟨before, last, heq, hbefore, hlast⟩ := ih (by simpa [hx] using h)
      refine ⟨x :: before, last, by simp [throughFirstMatch, hx, heq], ?_, hlast⟩
      intro y hy
      obtain rfl | hy := List.mem_cons.mp hy
      · exact Bool.eq_false_iff.mpr hx
      · exact hbefore y hy

theorem throughFirstMatch_prefix : throughFirstMatch signals <+: signals := by
  induction signals with
  | nil => exact List.prefix_refl []
  | cons x rest ih =>
    unfold throughFirstMatch
    split
    · exact ⟨rest, rfl⟩
    · exact (List.prefix_cons_inj x).mpr ih

namespace Stage

theorem map_tag_evaluate : (s.evaluate f c).map Signal.tag = s.tags := by
  rw [evaluate, List.map_map]
  rfl

theorem trace_prefix : s.trace signals <+: signals := by
  unfold trace
  split
  · exact throughFirstMatch_prefix
  · exact List.prefix_refl _

theorem passes_of_verdict?_eq_none (h : s.verdict? (s.evaluate f c) = none) :
    s.trace (s.evaluate f c) = s.evaluate f c ∧ s.Passes (s.evaluate f c) := by
  unfold verdict? at h
  unfold trace Passes
  cases hd : s.decision with
  | firstMatch w =>
    rw [hd] at h
    have hnone : ∀ x ∈ s.evaluate f c, x.isMatch = false := by simpa using h
    exact ⟨throughFirstMatch_eq_self hnone, map_tag_evaluate, hnone⟩
  | accumulate judge =>
    rw [hd] at h
    exact ⟨rfl, map_tag_evaluate, h⟩

theorem settles_of_verdict?_eq_some (h : s.verdict? (s.evaluate f c) = some v) :
    s.Settles (s.trace (s.evaluate f c)) v := by
  unfold verdict? at h
  unfold trace Settles
  cases hd : s.decision with
  | firstMatch w =>
    simp only [hd, Option.ite_none_right_eq_some, Option.some.injEq] at h
    have hpre : throughFirstMatch (s.evaluate f c) <+: s.evaluate f c := throughFirstMatch_prefix
    have htags := hpre.map Signal.tag
    rw [map_tag_evaluate] at htags
    exact ⟨h.2.symm, htags, throughFirstMatch_eq_append h.1⟩
  | accumulate judge =>
    rw [hd] at h
    exact ⟨map_tag_evaluate, h⟩

theorem Passes.length_eq (h : s.Passes part) : part.length = s.tags.length := by
  rw [← h.1, List.length_map]

theorem Settles.prefix_tags (h : s.Settles part v) : part.map Signal.tag <+: s.tags := by
  unfold Settles at h
  cases hd : s.decision with
  | firstMatch w =>
    rw [hd] at h
    exact h.2.1
  | accumulate judge =>
    rw [hd] at h
    exact h.1 ▸ List.prefix_refl _

theorem Settles.eq_of_firstMatch (h : s.Settles part v) (hd : s.decision = .firstMatch w) :
    v = w := by
  unfold Settles at h
  rw [hd] at h
  exact h.1

theorem Settles.eq_some_of_accumulate {judge : Float32 → Option Verdict} (h : s.Settles part v)
    (hd : s.decision = .accumulate judge) :
    part.map Signal.tag = s.tags ∧ judge (score part) = some v := by
  unfold Settles at h
  rw [hd] at h
  exact h

theorem Settles.unique (h : s.Settles part v) (h' : s.Settles part w) : v = w := by
  cases hd : s.decision with
  | firstMatch u => exact (h.eq_of_firstMatch hd).trans (h'.eq_of_firstMatch hd).symm
  | accumulate judge =>
    have hv := (h.eq_some_of_accumulate hd).2
    have hw := (h'.eq_some_of_accumulate hd).2
    exact Option.some.inj (hv.symm.trans hw)

/-- What a stage recorded without a verdict is not the beginning of a part with one. -/
theorem Passes.not_settles_append (h : s.Passes part) : ¬ s.Settles (part ++ trace) v := by
  intro hs
  have hlen := hs.prefix_tags.length_le
  rw [List.length_map, List.length_append, h.length_eq] at hlen
  have hnil : trace = [] := List.eq_nil_of_length_eq_zero (by omega)
  rw [hnil, List.append_nil] at hs
  unfold Passes at h
  unfold Settles at hs
  cases hd : s.decision with
  | firstMatch w =>
    rw [hd] at h hs
    obtain ⟨-, -, before, last, rfl, -, hlast⟩ := hs
    have hno : last.isMatch = false := h.2 last (by simp)
    simp [hno] at hlast
  | accumulate judge =>
    rw [hd] at h hs
    have hsome := h.2.symm.trans hs.2
    contradiction

end Stage

namespace Reading
variable {d e : Reading}

/-- The same reading after one more stage without a verdict. -/
def after (d : Reading) (s : Stage) (part : List Signal) : Reading :=
  { d with earlier := (s, part) :: d.earlier }

theorem Reads.after (h : d.Reads table trace) (hp : s.Passes part) :
    (d.after s part).Reads (s :: table) (part ++ trace) where
  table_eq := by simp [Reading.after, h.table_eq]
  trace_eq := by simp [Reading.after, h.trace_eq]
  passes := by
    intro p hmem
    obtain rfl | hmem := List.mem_cons.mp hmem
    · exact hp
    · exact h.passes p hmem
  settles := h.settles

theorem reads_of_settles (h : s.Settles part v) :
    (Reading.mk [] s part table v).Reads (s :: table) part :=
  ⟨rfl, rfl, by simp, h⟩

/-- The first stage of a table either settles a message or comes before the one that does. -/
theorem Reads.cases_cons (h : d.Reads (s :: table) trace) :
    (∃ v, d = ⟨[], s, trace, table, v⟩ ∧ s.Settles trace v) ∨
      ∃ (e : Reading) (part rest : List Signal), d = e.after s part ∧ trace = part ++ rest ∧
        s.Passes part ∧ e.Reads table rest := by
  obtain ⟨earlier, decider, part, later, v⟩ := d
  obtain ⟨htable, htrace, hpasses, hsettles⟩ := h
  cases earlier with
  | nil =>
    obtain ⟨rfl, rfl⟩ := List.cons.inj htable
    obtain rfl : trace = part := htrace
    exact Or.inl ⟨v, rfl, hsettles⟩
  | cons p earlier =>
    obtain ⟨hs, htable⟩ := List.cons.inj htable
    obtain ⟨s', part'⟩ := p
    obtain rfl : s = s' := hs
    refine Or.inr ⟨⟨earlier, decider, part, later, v⟩, part', _, rfl, ?_, ?_, htable, rfl, ?_,
      hsettles⟩
    · simpa using htrace
    · exact hpasses (s, part') List.mem_cons_self
    · exact fun p hp => hpasses p (List.mem_cons_of_mem _ hp)

theorem Reads.unique (h : d.Reads table trace) (h' : e.Reads table trace) : d = e := by
  induction table generalizing trace d e with
  | nil =>
    have := h.table_eq
    simp at this
  | cons s table ih =>
    obtain ⟨v, rfl, hv⟩ | ⟨d, part, rest, rfl, rfl, hp, hd⟩ := h.cases_cons
    · obtain ⟨w, rfl, hw⟩ | ⟨e, part, rest, rfl, rfl, hp, -⟩ := h'.cases_cons
      · rw [hv.unique hw]
      · exact absurd hv hp.not_settles_append
    · obtain ⟨w, rfl, hw⟩ | ⟨e, part', rest', rfl, heq, hp', he⟩ := h'.cases_cons
      · exact absurd hw hp.not_settles_append
      · have hlen : part.length = part'.length := hp.length_eq.trans hp'.length_eq.symm
        obtain ⟨rfl, rfl⟩ := List.append_inj heq hlen
        rw [ih hd he]

end Reading
end TierRouting
