/-! The fewest decimal digits that read back as a given binary floating-point value. -/
namespace TierRouting.Decimal

/-- The field widths of a binary interchange format. -/
structure BinaryFormat where
  fractionBits : Nat
  exponentBits : Nat

def binary32 : BinaryFormat := ⟨23, 8⟩

def binary64 : BinaryFormat := ⟨52, 11⟩

def powTwo (n : Nat) : Nat := Nat.pow 2 n

def powTen (n : Nat) : Nat := Nat.pow 10 n

/-- A positive finite value, `mantissa * 2 ^ exponent`. -/
structure Magnitude where
  mantissa : Nat
  exponent : Int
  /-- The value below lies half as far away as the value above. -/
  narrowBelow : Bool

inductive Reading where
  | nan
  | infinite (negative : Bool)
  | zero (negative : Bool)
  | finite (negative : Bool) (x : Magnitude)

/-- What the bits of a value in the format `f` stand for. -/
def BinaryFormat.read (f : BinaryFormat) (bits : Nat) : Reading :=
  let fraction := bits % powTwo f.fractionBits
  let biased := bits / powTwo f.fractionBits % powTwo f.exponentBits
  let negative := bits / powTwo (f.fractionBits + f.exponentBits) == 1
  let least : Int := 2 - powTwo (f.exponentBits - 1) - f.fractionBits
  if biased = powTwo f.exponentBits - 1 then
    if fraction = 0 then .infinite negative else .nan
  else if biased = 0 then
    if fraction = 0 then .zero negative else .finite negative ⟨fraction, least, false⟩
  else
    .finite negative
      ⟨powTwo f.fractionBits + fraction, least + biased - 1, fraction == 0 && biased > 1⟩

/-- The number `digits * 10 ^ exponent`. -/
structure Numeral where
  digits : Nat
  exponent : Int

/-- Which of two equally near numerals is taken. -/
inductive Tie where
  | toEven
  | up

/-- Compares `a * 10 ^ i` with `n * 2 ^ j`. -/
def compareScaled (a : Nat) (i : Int) (n : Nat) (j : Int) : Ordering :=
  compare (a * powTen i.toNat * powTwo (-j).toNat) (n * powTwo j.toNat * powTen (-i).toNat)

namespace Magnitude

/-- Whether `d` is among the numbers that round to `x`, where an even mantissa takes both ends. -/
def readsBack (x : Magnitude) (d : Numeral) : Bool :=
  let low := compareScaled d.digits d.exponent
    (4 * x.mantissa - if x.narrowBelow then 1 else 2) (x.exponent - 2)
  let high := compareScaled d.digits d.exponent (4 * x.mantissa + 2) (x.exponent - 2)
  let closed := x.mantissa % 2 == 0
  (low == .gt || closed && low == .eq) && (high == .lt || closed && high == .eq)

/-- The value as a quotient of naturals. -/
def quotient (x : Magnitude) : Nat × Nat :=
  (x.mantissa * powTwo x.exponent.toNat, powTwo (-x.exponent).toNat)

/-- The least power of ten above the value. -/
def scale (x : Magnitude) : Int :=
  let (n, d) := x.quotient
  if d ≤ n then (Nat.toDigits 10 (n / d)).length
  else 1 - (Nat.toDigits 10 ((d - 1) / n)).length

/-- The greatest multiple of `10 ^ grid` that is not above the value. -/
def floorOn (x : Magnitude) (grid : Int) : Nat :=
  let (n, d) := x.quotient
  n * powTen (-grid).toNat / (d * powTen grid.toNat)

/-- Of the two neighbours on a grid, the one that reads back, or the nearer one if both do. -/
def onGrid? (x : Magnitude) (tie : Tie) (grid : Int) : Option Numeral :=
  let below := x.floorOn grid
  match x.readsBack ⟨below, grid⟩, x.readsBack ⟨below + 1, grid⟩ with
  | false, false => none
  | true, false => some ⟨below, grid⟩
  | false, true => some ⟨below + 1, grid⟩
  | true, true =>
    match compareScaled (2 * below + 1) grid (2 * x.mantissa) x.exponent, tie with
    | .gt, _ => some ⟨below, grid⟩
    | .lt, _ => some ⟨below + 1, grid⟩
    | .eq, .up => some ⟨below + 1, grid⟩
    | .eq, .toEven => some ⟨below + below % 2, grid⟩

/-- The first of the grids of one, two, … digits on which some numeral reads back. -/
def shortest (x : Magnitude) (tie : Tie) : Numeral :=
  match (List.range 17).findSome? fun (n : Nat) => x.onGrid? tie (x.scale - (n + 1)) with
  | some d => if d.digits % 10 = 0 then ⟨d.digits / 10, d.exponent + 1⟩ else d
  | none => ⟨x.floorOn (x.scale - 17), x.scale - 17⟩

end Magnitude
end TierRouting.Decimal
