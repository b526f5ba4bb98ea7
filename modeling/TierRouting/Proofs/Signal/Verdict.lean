import TierRouting.Proofs.Signal.Confidence
import TierRouting.Proofs.Signal.Trace

/-! Every message is settled by one stage of the table, and its trace tells by which. -/
namespace TierRouting

variable {f : Features} {c : Float32} {s : Stage} {v : Verdict} {part trace : List Signal}
  {table more : List Stage} {d : Reading}

def Decision.constant? : Decision → Option Verdict
  | .firstMatch v => some v
  | .accumulate _ => none

def Decision.judge? : Decision → Option (Float32 → Option Verdict)
  | .firstMatch _ => none
  | .accumulate judge => some judge

/-- The stage settles whatever comes to it. -/
def Stage.Settling (s : Stage) : Prop := ∀ f c, s.verdict? (s.evaluate f c) ≠ none

theorem settle_cons_of_some (h : s.verdict? (s.evaluate f c) = some v) :
    settle f (s :: table) c = (s.trace (s.evaluate f c), v) := by
  simp [settle, h]

theorem settle_cons_of_none (h : s.verdict? (s.evaluate f c) = none) :
    settle f (s :: table) c =
      (s.evaluate f c ++ (settle f table (s.complexityAfter f c)).1,
        (settle f table (s.complexityAfter f c)).2) := by
  simp [settle, h, (Stage.passes_of_verdict?_eq_none h).1, Stage.complexityAfter]

theorem exists_settling_of_cons (hall : ∃ s' ∈ s :: table, s'.Settling)
    (h : s.verdict? (s.evaluate f c) = none) : ∃ s' ∈ table, s'.Settling := by
  obtain ⟨s', hmem, hs'⟩ := hall
  obtain rfl | hmem := List.mem_cons.mp hmem
  · exact absurd h (hs' f c)
  · exact ⟨s', hmem, hs'⟩

/-- A table with a stage that settles everything never runs out. -/
theorem exists_reads_settle (hall : ∃ s ∈ table, s.Settling) :
    ∃ d : Reading, d.Reads table (settle f table c).1 ∧ d.verdict = (settle f table c).2 := by
  induction table generalizing c with
  | nil => simp at hall
  | cons s table ih =>
    cases hv : s.verdict? (s.evaluate f c) with
    | some v =>
      rw [settle_cons_of_some hv]
      exact ⟨_, Reading.reads_of_settles (Stage.settles_of_verdict?_eq_some hv), rfl⟩
    | none =>
      rw [settle_cons_of_none hv]
      obtain ⟨d, hd, hverdict⟩ := ih (exists_settling_of_cons hall hv)
      exact ⟨d.after s (s.evaluate f c), hd.after (Stage.passes_of_verdict?_eq_none hv).2, hverdict⟩

theorem settle_append (hall : ∃ s ∈ table, s.Settling) :
    settle f (table ++ more) c = settle f table c := by
  induction table generalizing c with
  | nil => simp at hall
  | cons s table ih =>
    cases hv : s.verdict? (s.evaluate f c) with
    | some v => rw [List.cons_append, settle_cons_of_some hv, settle_cons_of_some hv]
    | none =>
      rw [List.cons_append, settle_cons_of_none hv, settle_cons_of_none hv,
        ih (exists_settling_of_cons hall hv)]

theorem settle_prefix_evaluateAll : (settle f table c).1 <+: evaluateAll f table c := by
  induction table generalizing c with
  | nil => exact List.prefix_refl _
  | cons s table ih =>
    unfold evaluateAll
    cases hv : s.verdict? (s.evaluate f c) with
    | some v =>
      rw [settle_cons_of_some hv]
      exact Stage.trace_prefix.trans (List.prefix_append ..)
    | none =>
      rw [settle_cons_of_none hv]
      exact (List.prefix_append_right_inj _).mpr ih

namespace Reading

theorem Reads.tags_eq (h : d.Reads table trace) :
    trace.map Signal.tag =
      (d.earlier.map Prod.fst).flatMap Stage.tags ++ d.part.map Signal.tag := by
  have hearlier : (d.earlier.flatMap Prod.snd).map Signal.tag =
      (d.earlier.map Prod.fst).flatMap Stage.tags := by
    rw [List.map_flatMap, List.flatMap_map]
    exact List.flatMap_congr fun p hp => (h.passes p hp).1
  rw [h.trace_eq, List.map_append, hearlier]

theorem Reads.tags_prefix (h : d.Reads table trace) :
    trace.map Signal.tag <+: table.flatMap Stage.tags := by
  rw [h.tags_eq, h.table_eq, List.flatMap_append, List.flatMap_cons]
  exact (List.prefix_append_right_inj _).mpr (h.settles.prefix_tags.trans (List.prefix_append ..))

/-- With distinct names, no rule of a later stage is in the trace. -/
theorem Reads.name_ne (h : d.Reads table trace)
    (hnames : ((table.flatMap Stage.tags).map Prod.fst).Nodup) {r : Rule} {x : Signal}
    (hs : s ∈ d.later) (hr : r ∈ s.rules) (hx : x ∈ trace) : x.name ≠ r.name := by
  have hread : trace.map Signal.tag <+:
      (d.earlier.map Prod.fst).flatMap Stage.tags ++ d.decider.tags := by
    rw [h.tags_eq]
    exact (List.prefix_append_right_inj _).mpr h.settles.prefix_tags
  have hsplit : table.flatMap Stage.tags =
      ((d.earlier.map Prod.fst).flatMap Stage.tags ++ d.decider.tags) ++
        d.later.flatMap Stage.tags := by
    rw [h.table_eq, List.flatMap_append, List.flatMap_cons, List.append_assoc]
  rw [hsplit, List.map_append] at hnames
  have hdisjoint := List.disjoint_of_nodup_append hnames
  intro heq
  refine hdisjoint (a := x.name) ?_ ?_
  · exact List.mem_map_of_mem (hread.subset (List.mem_map_of_mem hx))
  · have htag : r.tag ∈ d.later.flatMap Stage.tags :=
      List.mem_flatMap.mpr ⟨s, hs, List.mem_map_of_mem hr⟩
    exact heq ▸ List.mem_map_of_mem htag

end Reading

theorem settling_undecided : Stage.undecided.Settling := by
  intro f c
  simp [Stage.undecided, Stage.verdict?, Stage.evaluate, Rule.signal]

theorem nodup_rule_names : ((Stage.all.flatMap Stage.tags).map Prod.fst).Nodup := by
  decide +kernel

theorem nonNegative_weight (hs : s ∈ Stage.all) : ∀ t ∈ s.tags, NonNegative t.2 := by
  revert s
  decide +kernel

theorem nonNegative_score_of_tags (hs : s ∈ Stage.all) (h : part.map Signal.tag = s.tags) :
    NonNegative (score part) :=
  nonNegative_score fun x hx => nonNegative_weight hs x.tag (h ▸ List.mem_map_of_mem hx)

theorem clampConfidence_constant : ∀ v ∈ Stage.all.filterMap (·.decision.constant?),
    clampConfidence v.confidence = v.confidence := by
  decide +kernel

/-- Clamping changes no verdict of the table. -/
theorem clampConfidence_settled (hs : s ∈ Stage.all) (h : s.Settles part v) :
    clampConfidence v.confidence = v.confidence := by
  cases hd : s.decision with
  | firstMatch w =>
    rw [h.eq_of_firstMatch hd]
    exact clampConfidence_constant w (List.mem_filterMap.mpr ⟨s, hs, by rw [hd]; rfl⟩)
  | accumulate judge =>
    obtain ⟨htags, hv⟩ := h.eq_some_of_accumulate hd
    have hscore := nonNegative_score_of_tags hs htags
    have hjudge : judge ∈ Stage.all.filterMap (·.decision.judge?) :=
      List.mem_filterMap.mpr ⟨s, hs, by rw [hd]; rfl⟩
    have hjudges : Stage.all.filterMap (·.decision.judge?) = [judgeFlagship, judgeComplex] := rfl
    rw [hjudges, List.mem_pair] at hjudge
    obtain rfl | rfl := hjudge
    · exact clampConfidence_judgeFlagship hscore hv
    · exact clampConfidence_judgeComplex hscore hv

theorem settling_mem_all : ∃ s ∈ Stage.all, s.Settling :=
  ⟨Stage.undecided, by simp [Stage.all], settling_undecided⟩

theorem classify_signals (message : String) :
    (classify message).signals = (settle (.ofMessage message) Stage.all 0).1 := rfl

/-- One stage settles the message, the trace alone tells which one and how, and nothing behind
that stage is reached: none of its rules, and nothing that could follow the table. -/
theorem classify_read_off_trace (message : String) :
    (∃ d : Reading, d.Reads Stage.all (classify message).signals ∧
      (classify message).verdict = d.verdict ∧
      (∀ e : Reading, e.Reads Stage.all (classify message).signals → e = d) ∧
      ∀ s ∈ d.later, ∀ r ∈ s.rules, ∀ x ∈ (classify message).signals, x.name ≠ r.name) ∧
    (classify message).signals.map Signal.tag <+: Stage.all.flatMap Stage.tags ∧
    (classify message).signals <+: evaluateAll (.ofMessage message) Stage.all 0 ∧
    ∀ more, settle (.ofMessage message) (Stage.all ++ more) 0 =
      settle (.ofMessage message) Stage.all 0 := by
  obtain ⟨d, hd, hverdict⟩ :=
    exists_reads_settle (f := .ofMessage message) (c := 0) settling_mem_all
  have hmem : d.decider ∈ Stage.all := by
    rw [hd.table_eq]
    simp
  have hclamp := clampConfidence_settled hmem hd.settles
  have hclassified : (classify message).verdict =
      { d.verdict with confidence := clampConfidence d.verdict.confidence } := by
    rw [hverdict]
    rfl
  rw [classify_signals]
  refine ⟨⟨d, hd, ?_, fun e he => he.unique hd, fun s hs r hr x hx => ?_⟩, hd.tags_prefix,
    settle_prefix_evaluateAll, fun more => settle_append settling_mem_all⟩
  · rw [hclassified, hclamp]
  · exact hd.name_ne nodup_rule_names hs hr hx

end TierRouting
