import TierRouting.Signal.Table

/-! What a message asks for: the verdict of the first stage that reaches one. -/
namespace TierRouting

structure Classification where
  intent : Intent
  confidence : Float32
  reason : String
  /-- Every evaluated rule, in order. -/
  signals : List Signal

/-- The verdict of a table of stages that settles nothing. -/
def Verdict.fallback : Verdict := ⟨.standard, 0.6, "no decisive signals"⟩

/-- Confidence lies between zero and one. -/
def clampConfidence (x : Float32) : Float32 := if x < 0 then 0 else if 1 < x then 1 else x

/-- Runs the stages in order up to the first verdict. -/
def settle (f : Features) : List Stage → Float32 → List Signal × Verdict
  | [], _ => ([], .fallback)
  | s :: r, complexity =>
    let signals := s.evaluate f complexity
    match s.verdict? signals with
    | some v => (s.trace signals, v)
    | none =>
      let (later, v) := settle f r (if s.scoresComplexity then score signals else complexity)
      (s.trace signals ++ later, v)

def classify (message : String) : Classification :=
  let (signals, v) := settle (.ofMessage message) Stage.all 0
  ⟨v.intent, clampConfidence v.confidence, v.reason, signals⟩

end TierRouting
