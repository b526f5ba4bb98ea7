import TierRouting.Event.Basic
import TierRouting.Files.Tree

/-! What the program reports while it works. -/
namespace TierRouting

inductive Level where
  | debug
  | info
  | warn
deriving DecidableEq

def Level.label : Level → String
  | debug => "DEBUG"
  | info => "INFO"
  | warn => "WARN"

inductive Notice where
  | malformedDefault (text : String)
  | malformedOverride (tier : Tier) (text : String)
  | downgrade (intended actual : Tier) (rule : BudgetRule)
  | decision (d : RoutingDecision)
  | promptUnreadable (path : String) (error : FileError)
  | routingOn (bias : Bias) (preferFree : Bool)
  | routingOff (model : ModelRef)
  | eventsOn (path : String)
  | logStarted (path : String)
  /-- Nothing runs that could write to the log. -/
  | logDisabled (path : String)
  | logClosed (kind : EventKind)
  /-- What wrote to the log is gone while the log is still open. -/
  | logAbandoned (path : String)
  | writerFailed (path : String)
  | writeFailed (error : RoutingError)

namespace Notice

def level : Notice → Level
  | malformedDefault _ | malformedOverride .. | promptUnreadable .. | writerFailed _
  | writeFailed _ => .warn
  | downgrade .. | routingOn .. | routingOff _ | eventsOn _ => .info
  | decision _ | logStarted _ | logDisabled _ | logClosed _ | logAbandoned _ => .debug

def message : Notice → String
  | malformedDefault _ => "ignoring malformed default model"
  | malformedOverride .. => "ignoring malformed tier model override"
  | downgrade .. => "budget-aware tier downgrade"
  | decision _ => "routing decision"
  | promptUnreadable .. => "failed to read system prompt file"
  | routingOn .. => "model routing enabled"
  | routingOff _ => "model routing disabled, using default model"
  | eventsOn _ => "routing analytics enabled"
  | logStarted _ => "routing analytics logger started"
  | logDisabled _ => "no tokio runtime, routing analytics disabled"
  | logClosed _ => "routing analytics inactive, event dropped"
  | logAbandoned _ => "routing analytics writer gone, event dropped"
  | writerFailed _ => "routing analytics writer task failed"
  | writeFailed _ => "failed to write routing analytics event"

def decisionFields (d : RoutingDecision) : List (String × Json) :=
  [("intent", .string (toString d.classification.intent)),
    ("confidence", .float32 d.classification.confidence), ("tier", .string (toString d.tier)),
    ("original_tier", .string (toString d.baseTier)), ("model", .string (toString d.model)),
    ("bypassed", .bool d.bypassed), ("reason", .string d.reason)]

def fields : Notice → List (String × Json)
  | malformedDefault text => [("model", .string text)]
  | malformedOverride tier text => [("tier", .string (toString tier)), ("value", .string text)]
  | downgrade intended actual rule =>
    [("intended", .string (toString intended)), ("actual", .string (toString actual)),
      ("rule", .string (toString rule))]
  | decision d => decisionFields d
  | promptUnreadable path error => [("path", .string path), ("error", .string error.message)]
  | routingOn bias preferFree =>
    [("bias", .string (toString bias)), ("prefer_free", .bool preferFree)]
  | routingOff model => [("model", .string (toString model))]
  | logClosed kind => [("event", .string kind.name)]
  | writeFailed error => [("error", .string error.message)]
  | eventsOn path | logStarted path | logDisabled path | logAbandoned path | writerFailed path =>
    [("path", .string path)]

end Notice
end TierRouting
