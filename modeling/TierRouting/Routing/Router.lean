import TierRouting.Config.Settings
import TierRouting.Event.Store

/-! The choice of a tier and a model for each request. -/
namespace TierRouting

structure Router where
  settings : Config.RoutingSettings
  defaultModel : Option ModelRef := none
  /-- The address of each provider. -/
  endpoints : List (String × String) := []
  /-- The number of the log for events. -/
  log : Option Nat := none

namespace Router

/-- The tier of a request that names its model. -/
def bypassTier : Tier := .t3

/-- Sets the model for tiers that have none of their own. A malformed text leaves no such model. -/
def withDefaultModel (r : Router) (text : String) : Router × List Notice :=
  let model := ModelRef.parse? text
  ({ r with defaultModel := model }, if model.isSome then [] else [.malformedDefault text])

def ofSettings (s : Config.Settings) : Router × List Notice :=
  withDefaultModel { settings := s.routing, endpoints := s.providers.baseUrls }
    s.providers.defaultModel

/-- The model of a tier that no setting replaces. -/
def standingModel (r : Router) (t : Tier) : ModelRef :=
  (t.defaultModel?.or r.defaultModel).getD .fallback

/-- The model of a tier. A setting that is malformed counts as absent. -/
def resolve (r : Router) (t : Tier) : ModelRef × List Notice :=
  match r.settings.tiers.get? t with
  | none => (r.standingModel t, [])
  | some text =>
    match ModelRef.parse? text with
    | some m => (m, [])
    | none => (r.standingModel t, [.malformedOverride t text])

def endpointFor? (r : Router) (provider : String) : Option String :=
  (r.endpoints.find? (·.1 == provider)).map (·.2)

/-- Fixes the model of a request. -/
def bypass (q : RouteRequest) (c : Classification) (reason : BypassReason) (m : ModelRef) :
    RoutingDecision where
  model := m
  tier := bypassTier
  baseTier := bypassTier
  classification := c
  prompt := adapt q.systemPrompt bypassTier
  bypass := some reason
  bypassed := true
  context := q.context

/-- Chooses by the intent of the message, then the bias, then the budget. -/
def choose (r : Router) (q : RouteRequest) (c : Classification) : RoutingDecision × List Notice :=
  let baseTier := c.intent.minimumTier
  let biased := r.settings.bias.apply baseTier
  let (tier, clamp) := r.settings.budget.apply q.spend biased
  let (model, malformed) := r.resolve tier
  ({ model, tier, baseTier, classification := c, prompt := adapt q.systemPrompt tier,
     bypass := none, bypassed := false, clamp, context := q.context },
    clamp.toList.map (.downgrade biased tier) ++ malformed)

/-- The decision on a request, and what there is to report on the way to it. -/
def outcome (r : Router) (q : RouteRequest) : RoutingDecision × List Notice :=
  let c := classify q.message
  match q.sessionOverride with
  | some m => (bypass q c .sessionOverride m, [])
  | none =>
    if c.intent = .explicit then
      let (m, malformed) := r.resolve bypassTier
      (bypass q c .explicitRequest m, malformed)
    else r.choose q c

/-- The decision on a request, and everything that is reported about it. -/
def decide (r : Router) (q : RouteRequest) : RoutingDecision × List Notice :=
  let (d, notices) := r.outcome q
  (d, notices ++ [.decision d])

/-- Any difference of the tiers counts as a downgrade, also one that the bias makes. -/
def routeKind (d : RoutingDecision) : EventKind :=
  if d.bypassed then .override
  else if d.tier ≠ d.baseTier then .budgetDowngrade
  else .route

def event (r : Router) (time : String) (kind : EventKind) (d : RoutingDecision) : Event :=
  .ofDecision time kind d (r.endpointFor? d.model.provider)

def routeEvent (r : Router) (time : String) (d : RoutingDecision) : Event :=
  r.event time (routeKind d) d

def completionEvent (r : Router) (time : String) (d : RoutingDecision)
    (latencyMs responseSize : Nat) : Event :=
  (r.event time .complete d).withCompletion latencyMs responseSize

/-- The event names the model that answered in the end. -/
def fallbackEvent (r : Router) (time : String) (d : RoutingDecision) (m : ModelRef) : Event :=
  { r.event time .fallback d with model := m, endpoint := r.endpointFor? m.provider }

/-- Records an event if the router has a log. -/
def record (r : Router) (s : EventStore) (e : Event) : EventStore × List Notice :=
  match r.log with
  | some i => s.record i e
  | none => (s, [])

/-- Decides on a request and records it. -/
def route (r : Router) (s : EventStore) (time : String) (q : RouteRequest) :
    RoutingDecision × EventStore × List Notice :=
  let (d, notices) := r.decide q
  let (s, later) := r.record s (r.routeEvent time d)
  (d, s, notices ++ later)

end Router
end TierRouting
