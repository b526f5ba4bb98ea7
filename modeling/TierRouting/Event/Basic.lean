import TierRouting.Json.Value
import TierRouting.Routing.Decision

/-! Events about routed messages and the lines that record them. -/
namespace TierRouting

inductive EventKind where
  | route
  | complete
  | fallback
  | budgetDowngrade
  | override
deriving DecidableEq

namespace EventKind

def all : List EventKind := [route, complete, fallback, budgetDowngrade, override]

def label : EventKind → String
  | route => "route"
  | complete => "complete"
  | fallback => "fallback"
  | budgetDowngrade => "budget_downgrade"
  | override => "override"

def ofLabel? (s : String) : Option EventKind := all.find? (·.label == s)

def name : EventKind → String
  | route => "Route"
  | complete => "Complete"
  | fallback => "Fallback"
  | budgetDowngrade => "BudgetDowngrade"
  | override => "Override"

end EventKind

structure Event where
  time : String
  kind : EventKind
  intent : Intent
  confidence : Float32
  tier : Tier
  baseTier : Option Tier := none
  model : ModelRef
  /-- The address of the provider. -/
  endpoint : Option String := none
  sessionId : Option String := none
  channel : Option String := none
  messageLength : Nat
  latencyMs : Option Nat := none
  responseSize : Option Nat := none
  /-- The price in dollars, where there is one. -/
  cost : Option Float := none
  reason : Option String := none
  promptAdapted : Bool

namespace Event

/-- A bypass has no price, whatever its tier. -/
def ofDecision (time : String) (kind : EventKind) (d : RoutingDecision)
    (endpoint : Option String) : Event where
  time := time
  kind := kind
  intent := d.classification.intent
  confidence := d.classification.confidence
  tier := d.tier
  baseTier := some d.baseTier
  model := d.model
  endpoint := endpoint
  sessionId := d.context.sessionId
  channel := d.context.channel
  messageLength := d.context.messageLength
  cost := if d.bypassed then none else d.tier.inputCost? d.context.messageLength
  reason := some d.classification.reason
  promptAdapted := d.prompt.wasAdapted

def withCompletion (e : Event) (latencyMs responseSize : Nat) : Event :=
  { e with latencyMs := some latencyMs, responseSize := some responseSize }

/-- A member that is left out where there is no value. -/
def member (key : String) (f : α → Json) (a : Option α) : List (String × Json) :=
  match a with
  | some a => [(key, f a)]
  | none => []

/-- The price is always a member. -/
def json (e : Event) : Json :=
  .object (
    [("ts", .string e.time), ("event", .string e.kind.label), ("intent", .string e.intent.label),
      ("confidence", .float32 e.confidence), ("tier", .string e.tier.label)] ++
    member "originalTier" (.string ·.label) e.baseTier ++
    [("provider", .string e.model.provider), ("model", .string e.model.model)] ++
    member "endpoint" .string e.endpoint ++
    member "sessionId" .string e.sessionId ++
    member "channel" .string e.channel ++
    [("messageLength", .nat e.messageLength)] ++
    member "latencyMs" .nat e.latencyMs ++
    member "responseSize" .nat e.responseSize ++
    [("estimatedCostUsd", .optional .float e.cost)] ++
    member "classifierReason" .string e.reason ++
    [("promptAdapted", .bool e.promptAdapted)])

def line (e : Event) : String := e.json.text ++ "\n"

end Event
end TierRouting
