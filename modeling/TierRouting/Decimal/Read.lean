/-! Reading a decimal number as the nearest floating-point value. -/
namespace TierRouting.Decimal

def infinity : Float := 1.0 / 0.0

/-- The value of `digits * 10 ^ exponent`. The outer bounds keep the powers of ten small. -/
def nearest (digits : Nat) (exponent : Int) : Float :=
  let scale := (Nat.toDigits 10 digits).length + exponent
  if digits = 0 then 0.0
  else if 310 < scale then infinity
  else if scale < -330 then 0.0
  else Float.ofScientific digits (exponent < 0) exponent.natAbs

/-- The number that a list of digits writes in a base of at most sixteen. -/
def digitsValue (base : Nat) (cs : List Char) : Nat :=
  cs.foldl (fun n c => n * base + digitValue c) 0
where
  digitValue (c : Char) : Nat :=
    if c.isDigit then c.toNat - '0'.toNat
    else if c.isLower then c.toNat - 'a'.toNat + 10
    else c.toNat - 'A'.toNat + 10

/-- The parts of a number as it is written. -/
structure Written where
  sign : Option Char
  whole : List Char
  /-- The digits behind the point, if there is one. -/
  fraction : Option (List Char)
  /-- The sign and the digits behind the exponent mark, if there is one. -/
  exponent : Option (Option Char × List Char)

def isSign (c : Char) : Bool := c == '+' || c == '-'

/-- The sign that comes first, if one does, and the rest. -/
def takeSign : List Char → Option Char × List Char
  | [] => (none, [])
  | c :: r => if isSign c then (some c, r) else (none, c :: r)

def takeExponent? : List Char → Option (Option (Option Char × List Char))
  | [] => some none
  | c :: r =>
    let (sign, digits) := takeSign r
    if (c = 'e' ∨ c = 'E') ∧ digits ≠ [] ∧ digits.all Char.isDigit then some (some (sign, digits))
    else none

/-- Reads the parts, of which the whole and the fraction may be empty. -/
def Written.ofChars? (cs : List Char) : Option Written :=
  let (sign, cs) := takeSign cs
  let whole := cs.takeWhile Char.isDigit
  match cs.dropWhile Char.isDigit with
  | '.' :: r =>
    (takeExponent? (r.dropWhile Char.isDigit)).map
      (⟨sign, whole, some (r.takeWhile Char.isDigit), ·⟩)
  | r => (takeExponent? r).map (⟨sign, whole, none, ·⟩)

def Written.value (w : Written) : Float :=
  let fraction := w.fraction.getD []
  let exponent : Int :=
    match w.exponent with
    | none => 0
    | some (sign, digits) =>
      if sign = some '-' then -(digitsValue 10 digits) else digitsValue 10 digits
  let x := nearest (digitsValue 10 (w.whole ++ fraction)) (exponent - fraction.length)
  if w.sign = some '-' then -x else x

end TierRouting.Decimal
