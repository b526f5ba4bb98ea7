import TierRouting.Text.CharClass
import TierRouting.Text.Lines

/-! References to a provider's model, written `provider/model`, and the failures that reach the
caller. -/
namespace TierRouting

inductive RoutingError where
  | config (text : String)
  /-- The event file at `path` could not be opened or written. -/
  | sink (path : String) (cause : String)
  | internal (text : String)
deriving DecidableEq

def RoutingError.message : RoutingError → String
  | config text => "configuration error: " ++ text
  | sink path cause => "analytics sink error at " ++ path ++ ": " ++ cause
  | internal text => "internal error: " ++ text

structure ModelRef where
  provider : String
  model : String
deriving DecidableEq

namespace ModelRef

/-- The provider of a model that is named alone. -/
def defaultProvider : String := "anthropic"

instance : ToString ModelRef := ⟨fun m => m.provider ++ "/" ++ m.model⟩

/-- Both halves, trimmed; a half that is blank makes the reference malformed. -/
def ofHalves? (provider model : List Char) : Option ModelRef :=
  let provider := Text.trim provider
  let model := Text.trim model
  if provider.isEmpty || model.isEmpty then none
  else some ⟨String.ofList provider, String.ofList model⟩

/-- Splits at the first slash. Without one the text is a model of the default provider. -/
def parse? (s : String) : Option ModelRef :=
  let text := Text.trim s.toList
  match Text.splitFirst '/' text with
  | some (provider, model) => ofHalves? provider model
  | none => if text.isEmpty then none else some ⟨defaultProvider, String.ofList text⟩

def parse (s : String) : Except RoutingError ModelRef :=
  match parse? s with
  | some m => .ok m
  | none =>
    .error (.config ("malformed model reference \x60" ++ s ++ "\x60, expected provider/model"))

/-- The model of last resort. -/
def fallback : ModelRef := ⟨"anthropic", "claude-sonnet-4-5"⟩

end ModelRef
end TierRouting
