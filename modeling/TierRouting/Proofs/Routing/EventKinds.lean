import TierRouting.Proofs.Routing.Consistency

/-! What the kind of an event tells about the decision it records. It compares the tier with the
one of the intent, so it answers to the bias as well as to the budget. -/
namespace TierRouting

variable {b : Bias} {t : Tier} {d : RoutingDecision} {r : Router} {q : RouteRequest}
  {s : EventStore} {i : Nat} {path : String} {queue : List Event} {sink : Option Place} {notices : List Notice}

/-- The bias takes a tier somewhere else. -/
def Bias.Moves : Bias → Tier → Prop
  | cost, t => .t1 < t
  | balanced, _ => False
  | quality, t => t < .t4

instance (t : Tier) : (b : Bias) → Decidable (b.Moves t)
  | .cost => inferInstanceAs (Decidable (.t1 < t))
  | .balanced => inferInstanceAs (Decidable False)
  | .quality => inferInstanceAs (Decidable (t < .t4))

theorem Bias.apply_ne_iff (b : Bias) (t : Tier) : b.apply t ≠ t ↔ b.Moves t := by
  cases b with
  | cost => cases t <;> decide
  | balanced => cases t <;> decide
  | quality => cases t <;> decide

/-- Only one bias takes the highest free tier above the free ones. -/
theorem Bias.eq_quality_of_lt (h : .t1 < b.apply .t1) : b = .quality := by
  cases b with
  | cost => exact absurd h (by decide)
  | balanced => exact absurd h (by decide)
  | quality => rfl

def Notice.isDowngrade : Notice → Bool
  | downgrade .. => true
  | _ => false

theorem EventStore.record_of_accepting (h : s.logs[i]? = some ⟨path, .accepting queue sink⟩)
    (e : Event) : s.record i e =
      ({ s with logs := s.logs.set i ⟨path, .accepting (queue ++ [e]) sink⟩ }, []) := by
  simp only [record, h, EventLog.record]

namespace Router

theorem outcome_of_chosen (h : (r.outcome q).1.bypassed = false) :
    r.outcome q = r.choose q (classify q.message) := by
  have hnot := mt (consistent_outcome r q).bypassed_iff.mpr (by simp [h])
  obtain ⟨hmodel, hintent⟩ := not_or.mp hnot
  rw [Option.not_isSome_iff_eq_none] at hmodel
  simp [outcome, hmodel, hintent]

theorem not_isDowngrade_resolve (r : Router) (t : Tier) :
    ∀ n ∈ (r.resolve t).2, n.isDowngrade = false := by
  intro n hn
  unfold resolve at hn
  split at hn
  · simp at hn
  · split at hn
    · simp at hn
    · rw [List.mem_singleton.mp hn]
      rfl

/-- A downgrade is reported just when a rule of the budget lowered the tier. -/
theorem exists_isDowngrade_choose_iff (c : Classification) :
    (∃ n ∈ (r.choose q c).2, n.isDowngrade = true) ↔ (r.choose q c).1.downgraded = true := by
  have hresolve := r.not_isDowngrade_resolve (r.choose q c).1.tier
  constructor
  · rintro ⟨n, hn, hdown⟩
    rcases List.mem_append.mp hn with hn | hn
    · obtain ⟨rule, hrule, -⟩ := List.mem_map.mp hn
      exact Option.isSome_iff_exists.mpr ⟨rule, Option.mem_toList.mp hrule⟩
    · rw [hresolve n hn] at hdown
      contradiction
  · intro h
    obtain ⟨rule, hrule⟩ := Option.isSome_iff_exists.mp h
    refine ⟨_, List.mem_append_left _ (List.mem_map_of_mem (Option.mem_toList.mpr hrule)), rfl⟩

/-- How the kind of a recorded event, the decision and the reports on it hang together when the
model was chosen by the message. -/
structure Tells (b : Bias) (d : RoutingDecision) (notices : List Notice) (kind : EventKind) :
    Prop where
  kind_cases : kind = .budgetDowngrade ∨ kind = .route
  downgrade_iff : kind = .budgetDowngrade ↔ d.tier ≠ d.baseTier
  /-- A rule of the budget goes unnoticed where it only takes back what the bias had added. -/
  of_downgraded : d.downgraded = true → (kind = .budgetDowngrade ↔ d.baseTier ≠ .t1)
  bias_of_unnoticed : d.downgraded = true → d.baseTier = .t1 → b = .quality
  of_not_downgraded : d.downgraded = false → (kind = .budgetDowngrade ↔ b.Moves d.baseTier)
  of_balanced : b = .balanced → (kind = .budgetDowngrade ↔ d.downgraded = true)
  reported_iff : (∃ n ∈ notices, n.isDowngrade = true) ↔ d.downgraded = true

theorem routeKind_of_chosen (h : d.bypassed = false) :
    routeKind d = if d.tier ≠ d.baseTier then .budgetDowngrade else .route := by
  simp [routeKind, h]

theorem Consistent.tells (hd : Consistent r q d) (hb : d.bypassed = false)
    (hreport : (∃ n ∈ notices, n.isDowngrade = true) ↔ d.downgraded = true) :
    Tells r.settings.bias d notices (routeKind d) := by
  have hkind := routeKind_of_chosen hb
  have htier := hd.tier_of_chosen hb
  have hbiased : r.biasedTier q = r.settings.bias.apply d.baseTier := by
    rw [biasedTier, hd.baseTier_of_chosen hb]
  have hiff : routeKind d = .budgetDowngrade ↔ d.tier ≠ d.baseTier := by
    rw [hkind]
    split
    · next hne => exact iff_of_true rfl hne
    · next heq => exact iff_of_false nofun heq
  have hclamped (hc : d.downgraded = true) : d.tier = .t1 := by
    rw [htier]
    exact if_pos hc
  have hkept (hc : d.downgraded = false) : d.tier = r.settings.bias.apply d.baseTier := by
    rw [htier, ← hbiased]
    exact if_neg (Bool.eq_false_iff.mp hc)
  have hlowered (hc : d.downgraded = true) : .t1 < r.settings.bias.apply d.baseTier := by
    obtain ⟨rule, hrule⟩ := Option.isSome_iff_exists.mp hc
    rw [← hbiased]
    exact ((hd.clamp_of_chosen hb rule).mp hrule).2
  refine ⟨?_, hiff, ?_, ?_, ?_, ?_, hreport⟩
  · rw [hkind]
    split
    · exact .inl rfl
    · exact .inr rfl
  · intro hc
    rw [hiff, hclamped hc]
    exact ne_comm
  · intro hc hbase
    have hlt := hlowered hc
    rw [hbase] at hlt
    exact Bias.eq_quality_of_lt hlt
  · intro hc
    rw [hiff, hkept hc]
    exact Bias.apply_ne_iff _ _
  · intro hbalanced
    rw [hiff]
    cases hc : d.downgraded with
    | true =>
      have hlt := hlowered hc
      rw [hbalanced] at hlt
      refine iff_of_true ?_ rfl
      rw [hclamped hc]
      intro heq
      rw [← heq] at hlt
      exact absurd hlt (by decide)
    | false =>
      refine iff_of_false ?_ nofun
      rw [hkept hc, hbalanced]
      exact fun hne => hne rfl

/-- What routing adds to a log that takes events, and what it reports meanwhile. -/
theorem route_of_accepting (hlog : r.log = some i)
    (haccepts : s.logs[i]? = some ⟨path, .accepting queue sink⟩) (time : String) (q : RouteRequest) :
    (r.route s time q).2.1.logs[i]? =
      some ⟨path, .accepting (queue ++ [r.routeEvent time (r.route s time q).1]) sink⟩ ∧
    (r.route s time q).2.2 = (r.outcome q).2 ++ [.decision (r.outcome q).1] := by
  have hi := (List.getElem?_eq_some_iff.mp haccepts).1
  have hrecord := EventStore.record_of_accepting haccepts (r.routeEvent time (r.outcome q).1)
  constructor
  · simp only [route, decide, Router.record, hlog, hrecord]
    exact List.getElem?_set_self hi
  · simp only [route, decide, Router.record, hlog, hrecord, List.append_nil]

/-- A request that is routed by its message leaves one event. Its kind says whether the tier is the
one of the intent: a bias alone can make it a downgrade, and a budget that takes back what the bias
added is not seen. Without a bias the kind is a downgrade just when the budget lowered the tier. -/
theorem kind_of_chosen (hlog : r.log = some i)
    (haccepts : s.logs[i]? = some ⟨path, .accepting queue sink⟩) (time : String) (q : RouteRequest)
    (hchosen : (r.route s time q).1.bypassed = false) :
    ∃ e, (r.route s time q).2.1.logs[i]? = some ⟨path, .accepting (queue ++ [e]) sink⟩ ∧
      Tells r.settings.bias (r.route s time q).1 (r.route s time q).2.2 e.kind := by
  obtain ⟨hlogs, hnotices⟩ := route_of_accepting hlog haccepts time q
  refine ⟨_, hlogs, (route_consistent r s time q).tells hchosen ?_⟩
  have hreport := exists_isDowngrade_choose_iff (r := r) (q := q) (classify q.message)
  rw [← outcome_of_chosen hchosen] at hreport
  rw [hnotices]
  refine Iff.trans ?_ hreport
  simp [Notice.isDowngrade]

/-- A router with the quality bias that records its events. -/
def ambitious (preferFree : Bool) : Router where
  settings := { enabled := true, bias := .quality, budget := { preferFree } }
  log := some 0

def openStore : EventStore := { logs := [⟨"events.jsonl", .accepting [] none⟩] }

/-- The bias raises a short question by one tier, and the budget takes it back: nothing in the
event tells of it. -/
theorem kind_of_chosen_question :
    let d := ((ambitious true).route openStore "12:00" { message := "what is SGD?" }).1
    d.bypassed = false ∧ d.downgraded = true ∧ d.baseTier = .t1 ∧
      ∃ e, ((ambitious true).route openStore "12:00" { message := "what is SGD?" }).2.1.logs[0]? =
        some ⟨"events.jsonl", .accepting [e] none⟩ ∧ e.kind = .route := by
  have hchosen : ((ambitious true).outcome { message := "what is SGD?" }).1.bypassed = false := by
    decide +kernel
  have hdown : ((ambitious true).outcome { message := "what is SGD?" }).1.downgraded = true := by
    decide +kernel
  have hbase : ((ambitious true).outcome { message := "what is SGD?" }).1.baseTier = .t1 := by
    decide +kernel
  obtain ⟨e, hlogs, htells⟩ :=
    kind_of_chosen (r := ambitious true) (s := openStore) rfl rfl "12:00"
      { message := "what is SGD?" } hchosen
  refine ⟨hchosen, hdown, hbase, e, hlogs, htells.kind_cases.resolve_left fun hkind => ?_⟩
  exact (htells.of_downgraded hdown).mp hkind hbase

/-- A greeting under the quality bias: its event is a downgrade, though no rule of a budget applies
and the tier went up. -/
theorem not_forall_kind_iff_clamp :
    ¬ ∀ (r : Router) (s : EventStore) (i : Nat) (path : String) (queue : List Event)
      (sink : Option Place)
      (time : String) (q : RouteRequest), r.log = some i →
      s.logs[i]? = some ⟨path, .accepting queue sink⟩ → (r.route s time q).1.bypassed = false →
      ∃ e, (r.route s time q).2.1.logs[i]? = some ⟨path, .accepting (queue ++ [e]) sink⟩ ∧
        (e.kind = .budgetDowngrade ↔ (r.route s time q).1.clamp.isSome = true) ∧
        (e.kind = .route ↔ (r.route s time q).1.clamp = none) := by
  intro h
  have hchosen : ((ambitious false).outcome { message := "hi" }).1.bypassed = false := by
    decide +kernel
  have hclamp : ((ambitious false).outcome { message := "hi" }).1.clamp.isSome = false := by
    decide +kernel
  have hkind : routeKind ((ambitious false).outcome { message := "hi" }).1 = .budgetDowngrade := by
    decide +kernel
  obtain ⟨e, hlogs, hiff, -⟩ :=
    h (ambitious false) openStore 0 "events.jsonl" [] none "12:00" { message := "hi" } rfl rfl hchosen
  obtain ⟨hrecorded, -⟩ := route_of_accepting (r := ambitious false) (s := openStore) rfl rfl
    "12:00" { message := "hi" }
  rw [hrecorded] at hlogs
  cases hlogs
  exact Bool.false_ne_true (hclamp.symm.trans (hiff.mp hkind))

end Router
end TierRouting
