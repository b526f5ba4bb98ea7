import TierRouting.ModelRef

/-! How much capability a message asks for, and the five tiers that offer it, in ascending order
with what each one costs. -/
namespace TierRouting

inductive Intent where
  | trivial
  | simple
  | standard
  | complex
  | flagship
  /-- The message names the model to use. -/
  | explicit
deriving DecidableEq

namespace Intent

def all : List Intent := [trivial, simple, standard, complex, flagship, explicit]

def label : Intent → String
  | trivial => "trivial"
  | simple => "simple"
  | standard => "standard"
  | complex => "complex"
  | flagship => "flagship"
  | explicit => "explicit"

instance : ToString Intent := ⟨label⟩

def ofLabel? (s : String) : Option Intent := all.find? (·.label == s)

end Intent

inductive Tier where
  /-- No model is called. -/
  | t0
  /-- A small local model. -/
  | t1
  | t2
  | t3
  | t4
deriving DecidableEq

inductive Latency where
  | none
  | fast
  | moderate
  | slow
deriving DecidableEq

namespace Latency

def all : List Latency := [none, fast, moderate, slow]

def label : Latency → String
  | none => "none"
  | fast => "fast"
  | moderate => "moderate"
  | slow => "slow"

def ofLabel? (s : String) : Option Latency := all.find? (·.label == s)

end Latency

/-- Scores between zero and one. -/
structure Capabilities where
  reasoning : Float32
  coding : Float32
  instructionFollowing : Float32
  longContext : Float32
  toolUse : Float32
  worldKnowledge : Float32

/-- The scores under their names. -/
def Capabilities.dimensions (c : Capabilities) : List (String × Float32) :=
  [("reasoning", c.reasoning), ("coding", c.coding),
    ("instruction_following", c.instructionFollowing), ("long_context", c.longContext),
    ("tool_use", c.toolUse), ("world_knowledge", c.worldKnowledge)]

structure TierDefinition where
  label : String
  capabilities : Capabilities
  /-- Price in dollars of a thousand input tokens. -/
  costPer1kInput : Float
  latency : Latency
  requiresNetwork : Bool

namespace Tier

def all : List Tier := [t0, t1, t2, t3, t4]

def index : Tier → Nat
  | t0 => 0
  | t1 => 1
  | t2 => 2
  | t3 => 3
  | t4 => 4

def ofIndex? (i : Nat) : Option Tier := all[i]?

def label (t : Tier) : String := "T" ++ toString t.index

instance : ToString Tier := ⟨label⟩

def ofLabel? (s : String) : Option Tier := all.find? (·.label == s)

instance : LT Tier := ⟨fun a b => a.index < b.index⟩

instance : LE Tier := ⟨fun a b => a.index ≤ b.index⟩

instance (a b : Tier) : Decidable (a < b) := inferInstanceAs (Decidable (a.index < b.index))

instance (a b : Tier) : Decidable (a ≤ b) := inferInstanceAs (Decidable (a.index ≤ b.index))

instance : Max Tier := ⟨fun a b => if a ≤ b then b else a⟩

instance : Min Tier := ⟨fun a b => if a ≤ b then a else b⟩

def lowest : Tier := t0

def highest : Tier := t4

/-- The tier itself, or `ceiling` if it lies above. -/
def clamp (t ceiling : Tier) : Tier := min t ceiling

theorem ofIndex?_index (t : Tier) : ofIndex? t.index = some t := by cases t <;> rfl

def definition : Tier → TierDefinition
  | t0 => ⟨"none", ⟨0, 0, 0, 0, 0, 0⟩, 0.0, .none, false⟩
  | t1 => ⟨"local", ⟨0.30, 0.25, 0.40, 0.20, 0.10, 0.30⟩, 0.0, .fast, false⟩
  | t2 => ⟨"fast", ⟨0.55, 0.55, 0.70, 0.60, 0.60, 0.60⟩, 0.0008, .fast, true⟩
  | t3 => ⟨"standard", ⟨0.80, 0.85, 0.85, 0.85, 0.85, 0.80⟩, 0.003, .moderate, true⟩
  | t4 => ⟨"flagship", ⟨0.95, 0.92, 0.92, 0.90, 0.90, 0.92⟩, 0.015, .slow, true⟩

/-- The built-in model of a tier. -/
def defaultModel? : Tier → Option ModelRef
  | t0 => none
  | t1 => some ⟨"ollama", "llama3.2:3b"⟩
  | t2 => some ⟨"anthropic", "claude-haiku-4-5"⟩
  | t3 => some ⟨"anthropic", "claude-sonnet-4-5"⟩
  | t4 => some ⟨"anthropic", "claude-opus-4-1"⟩

/-- The price in dollars of a message of so many characters, four of which make a token. -/
def inputCost? (t : Tier) (chars : Nat) : Option Float :=
  if t = t0 then none
  else some (Float.ofNat ((chars + 3) / 4) / 1000.0 * t.definition.costPer1kInput)

end Tier

/-- The lowest tier that serves an intent. -/
def Intent.minimumTier : Intent → Tier
  | trivial => .t0
  | simple => .t1
  | standard => .t2
  | complex => .t3
  | flagship => .t4
  | explicit => .t4

end TierRouting
