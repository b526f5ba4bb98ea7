import TierRouting.Decimal.Shortest

/-! How the digits of a number are laid out. -/
namespace TierRouting.Decimal

structure Layout where
  /-- Numbers from `10 ^ first` up to `10 ^ last` need no exponent; without bounds none does. -/
  positional : Option (Int × Int)
  /-- Whole numbers end in `.0`. -/
  keepsPoint : Bool
  tie : Tie
  nan : String
  infinity : String

namespace Layout

def isPositional (l : Layout) (scale : Int) : Bool :=
  l.positional.all fun (first, last) => first < scale && scale ≤ last

/-- The digits of `d`, written out or in scientific form. -/
def numeral (l : Layout) (d : Numeral) : String :=
  let digits := Nat.toDigits 10 d.digits
  let scale := digits.length + d.exponent
  if l.isPositional scale then
    if 0 ≤ d.exponent then
      String.ofList (digits ++ List.replicate d.exponent.toNat '0') ++
        if l.keepsPoint then ".0" else ""
    else if scale ≤ 0 then
      "0." ++ String.ofList (List.replicate (-scale).toNat '0' ++ digits)
    else
      String.ofList (digits.take scale.toNat ++ '.' :: digits.drop scale.toNat)
  else
    String.ofList (digits.take 1) ++
      (if digits.length ≤ 1 then "" else "." ++ String.ofList (digits.drop 1)) ++
      "e" ++ toString (scale - 1)

def sign (negative : Bool) : String := if negative then "-" else ""

def reading (l : Layout) : Reading → String
  | .nan => l.nan
  | .infinite negative => sign negative ++ l.infinity
  | .zero negative => sign negative ++ if l.keepsPoint then "0.0" else "0"
  | .finite negative x => sign negative ++ l.numeral (x.shortest l.tie)

def float (l : Layout) (x : Float) : String := l.reading (binary64.read x.toBits.toNat)

def float32 (l : Layout) (x : Float32) : String := l.reading (binary32.read x.toBits.toNat)

end Layout
end TierRouting.Decimal
