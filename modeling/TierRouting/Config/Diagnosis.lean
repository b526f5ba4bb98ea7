import TierRouting.Config.Value
import TierRouting.Config.KeyOffset
import TierRouting.Config.Similarity
import TierRouting.Files.Path
import TierRouting.Text.Lowercase

/-! What the user is told about settings that cannot be used. -/
namespace TierRouting.Config

/-- A rule that settings of the right types break. -/
inductive Violation where
  | defaultModelBlank
  | notAnAddress (provider url : String)
  | capNotAmount (key : String) (cap : Float)
  | analyticsPathBlank

/-- A marked place in the text of a source. -/
structure Mark where
  source : String
  offset : Nat
  length : Nat

inductive ConfigError where
  | unknownKey (key : String) (suggestion : Option String) (valid : List String)
      (mark : Option Mark)
  | unknownVariant (key value : String) (suggestion : Option String) (accepted : List String)
  | invalidType (key : String) (found : Value) (expected : String)
  | missingKey (key : String)
  | violation (v : Violation)
  | syntaxError
  | other (text : String)

def tick (s : String) : String := "\x60" ++ s ++ "\x60"

def Violation.message : Violation → String
  | defaultModelBlank => "providers.default_model must not be empty"
  | notAnAddress provider url =>
    "providers.base_urls." ++ provider ++ " must be an http(s) URL, got " ++ tick url
  | capNotAmount key cap =>
    "routing.budget." ++ key ++ " must be a non-negative number, got " ++ messageLayout.float cap
  | analyticsPathBlank => "routing.analytics.path must not be empty when set"

def found (v : Value) (expected : String) : String :=
  v.described ++ ", expected " ++ expected

namespace ConfigError

def message : ConfigError → String
  | unknownKey key _ _ _ => "unknown configuration key " ++ tick key
  | unknownVariant key value _ _ => "invalid value " ++ tick value ++ " for " ++ tick key
  | invalidType key v expected =>
    "invalid type for key " ++ tick key ++ ": found " ++ found v expected
  | missingKey key => "missing required key " ++ tick key
  | violation v => "validation error: " ++ v.message
  | syntaxError => "configuration error: TOML parse error"
  | other text => "configuration error: " ++ text

def code : ConfigError → String
  | unknownKey .. => "blufio::config::unknown_key"
  | unknownVariant .. => "blufio::config::unknown_variant"
  | invalidType .. => "blufio::config::invalid_type"
  | missingKey _ => "blufio::config::missing_key"
  | violation _ => "blufio::config::validation"
  | syntaxError => "blufio::config::other"
  | other _ => "blufio::config::other"

/-- The choices, behind the likeliest one if there is one. -/
def suggestionHelp (suggestion : Option String) (kind : String) (options : List String) : String :=
  let choices := kind ++ ": " ++ String.intercalate ", " options
  match suggestion with
  | some s => "did you mean " ++ tick s ++ "? " ++ choices
  | none => choices

def help? : ConfigError → Option String
  | unknownKey _ suggestion valid _ => some (suggestionHelp suggestion "valid keys" valid)
  | unknownVariant _ _ suggestion accepted =>
    some (suggestionHelp suggestion "accepted values" accepted)
  | invalidType _ _ expected => some ("expected " ++ expected)
  | missingKey key => some ("add " ++ tick (key ++ " = <value>") ++ " to your blufio.toml")
  | violation _ => none
  | syntaxError => none
  | other _ => none

end ConfigError

/-- What is written under the mark of an unknown key. -/
def unknownKeyLabel : String := "this key is not recognized"

def lowercaseText (s : String) : String := String.ofList (Text.lowercase s.toList)

/-- The place of an unknown key in the source that its value comes from. -/
def mark? (f : Fault) (key : String) (sources : List (String × String)) : Option Mark := do
  let (name, content) ← sources.find? fun (name, _) => f.file == some name
  let offset ← keyOffset? content f.path key
  some ⟨name, offset, key.utf8ByteSize⟩

/-- The text of a fault that has no form of its own, with its file seen from `directory`. -/
def Fault.otherText (f : Fault) (directory text : String) : String :=
  match f.file with
  | some file => text ++ " in " ++ Path.display directory file ++ " TOML file"
  | none => text

/-- The report of a fault. The sources are the texts that a key may be marked in. -/
def Fault.diagnose (directory : String) (sources : List (String × String)) (f : Fault) :
    ConfigError :=
  let key := String.intercalate "." f.path
  match f.cause with
  | .unknownKey name valid => .unknownKey name (suggest? name valid) valid (mark? f name sources)
  | .unknownVariant value accepted =>
    .unknownVariant key value (suggest? (lowercaseText value) accepted) accepted
  | .invalidType v expected => .invalidType key v expected
  | .invalidValue v expected =>
    .other (f.otherText directory ("invalid value " ++ found v expected))
  | .invalidLength n expected =>
    .other (f.otherText directory ("invalid length " ++ toString n ++ ", expected " ++ expected))
  | .missingKey name => .missingKey name
  | .duplicateKey name => .other (f.otherText directory ("duplicate field " ++ tick name))
  | .syntaxError => .syntaxError
  | .text message => .other (f.otherText directory message)

end TierRouting.Config
