import TierRouting.Text.CharClass

/-! Text patterns, what it means to match one, and all the ends of a match. -/
namespace TierRouting.Text

/-- A place in a text: the character before it and the characters after it. -/
structure Position where
  before : Option Char
  rest : List Char

inductive Edge where
  | textStart
  | textEnd
  | lineStart
  | word

/-- A word edge has a word character on exactly one side. -/
def Edge.holds (q : Position) : Edge → Bool
  | textStart => q.before.isNone
  | textEnd => q.rest.isEmpty
  | lineStart => q.before.all (· == '\n')
  | word => q.before.any isWordChar != q.rest.head?.any isWordChar

inductive Pattern where
  | empty
  | edge (e : Edge)
  | one (p : Char → Bool)
  | seq (a b : Pattern)
  | alt (a b : Pattern)
  /-- Between `least` and `most` characters of a class. -/
  | span (p : Char → Bool) (least : Nat) (most : Option Nat)
  | star (a : Pattern)

namespace Pattern

instance : Append Pattern := ⟨seq⟩

instance : OrOp Pattern := ⟨alt⟩

def chars : List Char → Pattern
  | [] => empty
  | [c] => one (· == c)
  | c :: r => one (· == c) ++ chars r

instance : Coe String Pattern := ⟨fun s => chars s.toList⟩

/-- One of the given patterns; none if there are none. -/
def anyOf : List Pattern → Pattern
  | [] => one fun _ => false
  | [a] => a
  | a :: r => alt a (anyOf r)

def optional (a : Pattern) : Pattern := alt a empty

def many (p : Char → Bool) : Pattern := span p 0 none

def many1 (p : Char → Bool) : Pattern := span p 1 none

def upTo (n : Nat) (p : Char → Bool) : Pattern := span p 0 (some n)

/-- The ends of the runs that start at a place and hold `least` to `most` characters. -/
def spanEnds (p : Char → Bool) : List Char → Nat → Option Nat → Option Char → List Position
  | [], least, _, before => if least = 0 then [⟨before, []⟩] else []
  | c :: r, least, most, before =>
    (if least = 0 then [⟨before, c :: r⟩] else []) ++
      if most ≠ some 0 ∧ p c then spanEnds p r (least - 1) (most.map (· - 1)) (some c) else []

/-- What at most `n` steps reach, each of which has to consume something. -/
def closure (step : Position → List Position) : Nat → Position → List Position
  | 0, q => [q]
  | n + 1, q =>
    q :: ((step q).filter (·.rest.length < q.rest.length)).flatMap (closure step n)

/-- Every place where a match that starts at `q` can end. -/
def ends : Pattern → Position → List Position
  | empty, q => [q]
  | edge e, q => if e.holds q then [q] else []
  | one p, q =>
    match q.rest with
    | [] => []
    | c :: r => if p c then [⟨some c, r⟩] else []
  | seq a b, q => (ends a q).flatMap (ends b)
  | alt a b, q => ends a q ++ ends b q
  | span p least most, q => spanEnds p q.rest least most q.before
  | star a, q => closure (ends a) q.rest.length q

/-- Whether a match starts at some place at or after `before`. -/
def searchFrom (a : Pattern) : Option Char → List Char → Bool
  | before, [] => !(a.ends ⟨before, []⟩).isEmpty
  | before, c :: r => !(a.ends ⟨before, c :: r⟩).isEmpty || searchFrom a (some c) r

def occursIn (a : Pattern) (text : List Char) : Bool := searchFrom a none text

end Pattern
end TierRouting.Text
