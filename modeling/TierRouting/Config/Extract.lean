import TierRouting.Config.Value
import TierRouting.Config.Settings

/-! Settings from a table of values, or the first thing that is wrong with the table. -/
namespace TierRouting.Config

abbrev Extracted (α : Type) := Except Fault α

def Extracted.under (key : String) : Extracted α → Extracted α
  | .ok a => .ok a
  | .error f => .error { f with path := key :: f.path }

def invalidType (found : Value) (expected : String) : Extracted α :=
  .error { cause := .invalidType found expected }

def readString : Value → Extracted String
  | .string s => .ok s
  | .char c => .ok (String.singleton c)
  | v => invalidType v "a string"

def readBool : Value → Extracted Bool
  | .bool b => .ok b
  | v => invalidType v "a boolean"

def readFloat : Value → Extracted Float
  | .float x => .ok x
  | .signed n => .ok (Float.ofInt n)
  | .unsigned n => .ok (Float.ofNat n)
  | v => invalidType v "f64"

def readOption (read : Value → Extracted α) (v : Value) : Extracted (Option α) := some <$> read v

def biasNamed (name : String) : Extracted Bias :=
  match Bias.ofLabel? name with
  | some b => .ok b
  | none => .error { cause := .unknownVariant name (Bias.all.map Bias.label) }

/-- A bias is written as its name. A table names one by its first key, which no value may follow. -/
def readBias : Value → Extracted Bias
  | .string s => biasNamed s
  | .table [] => invalidType (.table []) "enum"
  | .table ((key, v) :: _) =>
    Extracted.under key (biasNamed key >>= fun _ => invalidType v "unit")
  | v => invalidType v "enum RoutingBias"

def readStrings : Value → Extracted (List (String × String))
  | .table entries => entries.mapM fun (key, v) => (key, ·) <$> Extracted.under key (readString v)
  | v => invalidType v "a map"

/-- A key of a section and how its value changes the settings of the section. -/
structure Field (σ : Type) where
  key : String
  set : σ → Value → Extracted σ

def field (key : String) (read : Value → Extracted α) (set : σ → α → σ) : Field σ where
  key := key
  set s v := set s <$> read v

def setEntry (fields : List (Field σ)) (s : σ) (entry : String × Value) : Extracted σ :=
  Extracted.under entry.1 <|
    match fields.find? (·.key == entry.1) with
    | some f => f.set s entry.2
    | none => .error { cause := .unknownKey entry.1 (fields.map (·.key)) }

/-- Sets the fields in turn from the items of an array, which count from `i` on. -/
def setItems (s : σ) : Nat → List (Field σ) → List Value → Extracted σ
  | i, f :: fields, v :: items => do
    let s ← Extracted.under (toString i) (f.set s v)
    setItems s (i + 1) fields items
  | _, _, _ => .ok s

/-- A section is a table of its fields, or an array of their values in order. What it leaves out
keeps its default. -/
def readSection [Inhabited σ] (name : String) (fields : List (Field σ)) : Value → Extracted σ
  | .table entries => entries.foldlM (setEntry fields) default
  | .array items => setItems default 0 fields items
  | v => invalidType v ("struct " ++ name)

instance : Inhabited AgentSettings := ⟨{}⟩
instance : Inhabited ProviderSettings := ⟨{}⟩
instance : Inhabited TierModels := ⟨{}⟩
instance : Inhabited Budget := ⟨{}⟩
instance : Inhabited AnalyticsSettings := ⟨{}⟩
instance : Inhabited RoutingSettings := ⟨{}⟩
instance : Inhabited Settings := ⟨{}⟩

def agentFields : List (Field AgentSettings) := [
  field "name" readString ({ · with name := · }),
  field "log_level" readString ({ · with logLevel := · }),
  field "system_prompt" (readOption readString) ({ · with systemPrompt := · }),
  field "system_prompt_file" (readOption readString) ({ · with systemPromptFile := · }),
  field "state_dir" (readOption readString) ({ · with stateDir := · })]

def providerFields : List (Field ProviderSettings) := [
  field "default_model" readString ({ · with defaultModel := · }),
  field "base_urls" readStrings ({ · with baseUrls := · })]

def tierFields : List (Field TierModels) := [
  field "t1" (readOption readString) ({ · with t1 := · }),
  field "t2" (readOption readString) ({ · with t2 := · }),
  field "t3" (readOption readString) ({ · with t3 := · }),
  field "t4" (readOption readString) ({ · with t4 := · })]

def budgetFields : List (Field Budget) := [
  field "daily_cap_usd" (readOption readFloat) ({ · with dailyCap := · }),
  field "monthly_cap_usd" (readOption readFloat) ({ · with monthlyCap := · }),
  field "prefer_free" readBool ({ · with preferFree := · })]

def analyticsFields : List (Field AnalyticsSettings) := [
  field "enabled" readBool ({ · with enabled := · }),
  field "path" (readOption readString) ({ · with path := · })]

def routingFields : List (Field RoutingSettings) := [
  field "enabled" readBool ({ · with enabled := · }),
  field "bias" readBias ({ · with bias := · }),
  field "tiers" (readSection "TierModelsConfig" tierFields) ({ · with tiers := · }),
  field "budget" (readSection "RoutingBudgetConfig" budgetFields) ({ · with budget := · }),
  field "analytics" (readSection "AnalyticsConfig" analyticsFields) ({ · with analytics := · })]

def settingsFields : List (Field Settings) := [
  field "agent" (readSection "AgentConfig" agentFields) ({ · with agent := · }),
  field "providers" (readSection "ProvidersConfig" providerFields) ({ · with providers := · }),
  field "routing" (readSection "RoutingConfig" routingFields) ({ · with routing := · })]

def readSettings (entries : Entries) : Extracted Settings :=
  readSection "BlufioConfig" settingsFields (.table entries)

end TierRouting.Config
