import TierRouting.Policy
import TierRouting.Config.Environment
import TierRouting.Files.Path

/-! The settings of the program and their defaults. -/
namespace TierRouting.Config

structure AgentSettings where
  name : String := "blufio"
  logLevel : String := "info"
  systemPrompt : Option String := none
  /-- A file whose text takes the place of `systemPrompt`. -/
  systemPromptFile : Option String := none
  stateDir : Option String := none

structure ProviderSettings where
  /-- The model of every message while routing is off. -/
  defaultModel : String := "anthropic/claude-sonnet-4-5"
  /-- The address of each provider, in the order of the names. -/
  baseUrls : List (String × String) := []

/-- The models that replace the built-in one of a tier. -/
structure TierModels where
  t1 : Option String := none
  t2 : Option String := none
  t3 : Option String := none
  t4 : Option String := none

def TierModels.get? (m : TierModels) : Tier → Option String
  | .t0 => none
  | .t1 => m.t1
  | .t2 => m.t2
  | .t3 => m.t3
  | .t4 => m.t4

structure AnalyticsSettings where
  enabled : Bool := true
  path : Option String := none

structure RoutingSettings where
  enabled : Bool := false
  bias : Bias := .balanced
  tiers : TierModels := {}
  budget : Budget := {}
  analytics : AnalyticsSettings := {}

structure Settings where
  agent : AgentSettings := {}
  providers : ProviderSettings := {}
  routing : RoutingSettings := {}

def isBlankText (s : String) : Bool := Text.allBlank s.toList

/-- The text, unless it is blank. -/
def nonblank? (s : Option String) : Option String :=
  match s with
  | some s => if isBlankText s then none else some s
  | none => none

def nonempty? (s : Option String) : Option String := s.filter (!·.isEmpty)

/-- The home directory that a variable names, or else the one on record for the account. -/
def Environment.home? (env : Environment) (account : Option String) : Option String :=
  (nonempty? (env.get? "HOME")).or (nonempty? account)

/-- The directory that the variable `name` gives by an absolute path, or else one below the home
directory, if there is one. -/
def Environment.directory? (env : Environment) (account : Option String) (name below : String) :
    Option String :=
  ((env.get? name).filter Path.isAbsolute).or ((env.home? account).map (Path.join · below))

def Environment.configDir? (env : Environment) (account : Option String) : Option String :=
  env.directory? account "XDG_CONFIG_HOME" ".config"

def Environment.stateDir? (env : Environment) (account : Option String) : Option String :=
  env.directory? account "XDG_STATE_HOME" ".local/state"

/-- The directory for the data of programs on this machine. -/
def Environment.dataDir? (env : Environment) (account : Option String) : Option String :=
  env.directory? account "XDG_DATA_HOME" ".local/share"

def AgentSettings.resolvedStateDir (a : AgentSettings) (env : Environment)
    (account : Option String := none) : String :=
  match nonblank? a.stateDir with
  | some path => path
  | none =>
    match (env.stateDir? account).or (env.dataDir? account) with
    | some directory => Path.join directory "blufio"
    | none => ".blufio"

/-- Where events are written. -/
def Settings.analyticsPath (s : Settings) (env : Environment) (account : Option String := none) :
    String :=
  match nonblank? s.routing.analytics.path with
  | some path => path
  | none => Path.join (Path.join (s.agent.resolvedStateDir env account) "routing") "analytics.jsonl"

end TierRouting.Config
