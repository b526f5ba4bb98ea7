import TierRouting.Proofs.Routing.Consistency
import TierRouting.Proofs.Turn.Undisturbed

/-! What a router reports while it decides on a request can be read off its decision. -/
namespace TierRouting

/-- A report as it is shown: its level, its message and its fields. -/
abbrev ReportLine := Level × String × List (String × Json)

def Notice.line (n : Notice) : ReportLine := (n.level, n.message, n.fields)

namespace RoutingDecision

/-- The budget lowered the tier from what the intent and the bias had chosen. -/
def downgradeLine (d : RoutingDecision) (intended : Tier) (rule : BudgetRule) : ReportLine :=
  (.info, "budget-aware tier downgrade",
    [("intended", .string intended.label), ("actual", .string d.tier.label),
      ("rule", .string (toString rule))])

/-- What is set for the model of the tier is no model. -/
def malformedLine (d : RoutingDecision) (text : String) : ReportLine :=
  (.warn, "ignoring malformed tier model override",
    [("tier", .string d.tier.label), ("value", .string text)])

/-- The reason is that of the bypass, where there is one. -/
def decisionLine (d : RoutingDecision) : ReportLine :=
  (.debug, "routing decision",
    [("intent", .string d.classification.intent.label),
      ("confidence", .float32 d.classification.confidence), ("tier", .string d.tier.label),
      ("original_tier", .string d.baseTier.label),
      ("model", .string (d.model.provider ++ "/" ++ d.model.model)),
      ("bypassed", .bool d.bypassed),
      ("reason", .string ((d.bypass.map BypassReason.text).getD d.classification.reason))])

end RoutingDecision

namespace Router

/-- What is set for a tier although it names no model. -/
def malformedOverride? (r : Router) (t : Tier) : Option String :=
  (r.settings.tiers.get? t).filter fun text => ModelRef.parse? text = none

/-- What is set for the tier of a decision comes up only if no session insists on a model. -/
def ignoredOverride? (r : Router) (q : RouteRequest) (d : RoutingDecision) : Option String :=
  if q.sessionOverride = none then r.malformedOverride? d.tier else none

/-- One line for a downgrade, if there was one, one for a malformed setting that was met, and one
for the decision. -/
def expectedLines (r : Router) (q : RouteRequest) (d : RoutingDecision) : List ReportLine :=
  d.clamp.toList.map (d.downgradeLine (r.biasedTier q)) ++
    (r.ignoredOverride? q d).toList.map d.malformedLine ++ [d.decisionLine]

theorem line_decision (d : RoutingDecision) : (Notice.decision d).line = d.decisionLine := by
  have hreason : d.reason = (d.bypass.map BypassReason.text).getD d.classification.reason := by
    unfold RoutingDecision.reason
    cases d.bypass with
    | none => rfl
    | some b => rfl
  rw [RoutingDecision.decisionLine, ← hreason]
  rfl

theorem resolve_snd (r : Router) (t : Tier) :
    (r.resolve t).2 = (r.malformedOverride? t).toList.map (.malformedOverride t) := by
  unfold resolve malformedOverride?
  cases htext : r.settings.tiers.get? t with
  | none => rfl
  | some text => cases hm : ModelRef.parse? text <;> simp [hm, Option.filter]

theorem outcome_snd (r : Router) (q : RouteRequest) :
    (r.outcome q).2 =
      (r.outcome q).1.clamp.toList.map (.downgrade (r.biasedTier q) (r.outcome q).1.tier) ++
        (r.ignoredOverride? q (r.outcome q).1).toList.map
          (.malformedOverride (r.outcome q).1.tier) := by
  cases hmodel : q.sessionOverride with
  | some m => simp [outcome, hmodel, bypass, ignoredOverride?]
  | none =>
    by_cases hintent : (classify q.message).intent = .explicit
    · simp [outcome, hmodel, hintent, bypass, ignoredOverride?, resolve_snd]
    · simp [outcome, hmodel, hintent, choose, ignoredOverride?, resolve_snd, biasedTier]

theorem decide_snd (r : Router) (q : RouteRequest) :
    (r.decide q).2 = (r.outcome q).2 ++ [.decision (r.outcome q).1] := rfl

/-- Deciding reports nothing about logs. -/
theorem otherNotices_decide (r : Router) (q : RouteRequest) :
    otherNotices (r.decide q).2 = (r.decide q).2 := by
  refine List.filter_eq_self.mpr fun n hn => ?_
  rw [decide_snd, outcome_snd] at hn
  rcases List.mem_append.mp hn with hn | hn
  · rcases List.mem_append.mp hn with hn | hn
    · obtain ⟨rule, -, rfl⟩ := List.mem_map.mp hn
      rfl
    · obtain ⟨text, -, rfl⟩ := List.mem_map.mp hn
      rfl
  · rw [List.mem_singleton.mp hn]
    rfl

/-- Reports about its log apart, a router reports on a request what its decision shows: the budget's
downgrade, the malformed setting of the tier where that was looked up, and the decision, each once
and in this order. -/
theorem route_lines (r : Router) (s : EventStore) (time : String) (q : RouteRequest) :
    (otherNotices (r.route s time q).2.2).map Notice.line =
      r.expectedLines q (r.route s time q).1 := by
  have hlog : otherNotices (r.record s (r.routeEvent time (r.outcome q).1)).2 = [] :=
    otherNotices_eq_nil fun n hn => r.isOfLog_record s _ hn
  have hnotices : (r.route s time q).2.2 =
      (r.decide q).2 ++ (r.record s (r.routeEvent time (r.outcome q).1)).2 := rfl
  rw [hnotices, otherNotices_append, hlog, List.append_nil, otherNotices_decide, decide_snd,
    outcome_snd, List.map_append, List.map_append, List.map_map, List.map_map, List.map_singleton,
    line_decision]
  rfl

end Router
end TierRouting
