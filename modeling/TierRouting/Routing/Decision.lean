import TierRouting.Policy
import TierRouting.Prompt.Adapt
import TierRouting.Signal.Classify

/-! Requests for a model and the decisions on them. -/
namespace TierRouting

/-- One message of a conversation, with what the host knows about it. -/
structure Turn where
  message : String
  /-- The model that the session insists on. -/
  sessionOverride : Option ModelRef := none
  spend : Spend := {}
  sessionId : Option String := none
  channel : Option String := none

structure RouteRequest extends Turn where
  systemPrompt : String := ""

/-- Why a request is not routed by what its message asks for. -/
inductive BypassReason where
  | sessionOverride
  | explicitRequest
deriving DecidableEq

def BypassReason.text : BypassReason → String
  | sessionOverride => "session model override"
  | explicitRequest => "explicit model request in message"

/-- What later events tell about the request. -/
structure DecisionContext where
  /-- The number of characters of the message. -/
  messageLength : Nat
  sessionId : Option String := none
  channel : Option String := none
deriving DecidableEq

def Turn.context (t : Turn) : DecisionContext := ⟨t.message.length, t.sessionId, t.channel⟩

structure RoutingDecision where
  model : ModelRef
  /-- The tier after the bias and the budget. -/
  tier : Tier
  /-- The lowest tier that serves the intent, or the tier of a bypass. -/
  baseTier : Tier
  classification : Classification
  prompt : AdaptedPrompt
  /-- Why the request was not routed by what its message asks for. -/
  bypass : Option BypassReason := none
  bypassed : Bool := bypass.isSome
  /-- The rule of the budget that lowered the tier. -/
  clamp : Option BudgetRule := none
  context : DecisionContext

namespace RoutingDecision

def downgraded (d : RoutingDecision) : Bool := d.clamp.isSome

/-- The reason for the choice of the tier. -/
def reason (d : RoutingDecision) : String :=
  match d.bypass with
  | some b => b.text
  | none => d.classification.reason

end RoutingDecision
end TierRouting
