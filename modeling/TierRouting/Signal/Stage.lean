import TierRouting.Tier
import TierRouting.Text.Lowercase
import TierRouting.Text.Pattern

/-! Stages of rules, each of which may settle what a message asks for. -/
namespace TierRouting

/-- What the rules see of a message. -/
structure Features where
  /-- The message without the blanks around it. -/
  text : List Char
  lower : List Char
  words : Nat
  questionMarks : Nat

def Features.ofMessage (message : String) : Features :=
  let text := Text.trim message.toList
  ⟨text, Text.lowercase text, (Text.words text).length, text.count '?'⟩

inductive Test where
  /-- A phrase sought in the lower case message. -/
  | phrase (p : Text.Pattern)
  /-- A property of the message and of the complexity score so far. -/
  | measure (holds : Features → Float32 → Bool)

def Test.label : Test → String
  | phrase _ => "pattern"
  | measure _ => "heuristic"

structure Rule where
  name : String
  weight : Float32
  test : Test

/-- An evaluated rule. -/
structure Signal where
  name : String
  weight : Float32
  isMatch : Bool
deriving DecidableEq

structure Verdict where
  intent : Intent
  confidence : Float32
  reason : String

inductive Decision where
  /-- The first rule that matches settles the message. -/
  | firstMatch (v : Verdict)
  /-- The weights of the matching rules are added up and judged. -/
  | accumulate (judge : Float32 → Option Verdict)

structure Stage where
  name : String
  decision : Decision
  rules : List Rule
  /-- Later stages see the sum of this stage as the complexity score. -/
  scoresComplexity : Bool := false

def Rule.signal (f : Features) (complexity : Float32) (r : Rule) : Signal where
  name := r.name
  weight := r.weight
  isMatch :=
    match r.test with
    | .phrase p => p.occursIn f.lower
    | .measure holds => holds f complexity

/-- The signals up to the first match, or all of them. -/
def throughFirstMatch : List Signal → List Signal
  | [] => []
  | s :: r => if s.isMatch then [s] else s :: throughFirstMatch r

/-- The sum of the matching weights, added in order. -/
def score (signals : List Signal) : Float32 :=
  signals.foldl (fun sum s => if s.isMatch then sum + s.weight else sum) 0

namespace Stage

def evaluate (s : Stage) (f : Features) (complexity : Float32) : List Signal :=
  s.rules.map (·.signal f complexity)

/-- The part of the evaluated rules that a stage records. -/
def trace (s : Stage) (signals : List Signal) : List Signal :=
  match s.decision with
  | .firstMatch _ => throughFirstMatch signals
  | .accumulate _ => signals

def verdict? (s : Stage) (signals : List Signal) : Option Verdict :=
  match s.decision with
  | .firstMatch v => if signals.any (·.isMatch) then some v else none
  | .accumulate judge => judge (score signals)

end Stage
end TierRouting
