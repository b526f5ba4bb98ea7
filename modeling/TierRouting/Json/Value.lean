import TierRouting.Decimal.Layout
import TierRouting.Json.Quoted

/-! JSON values and their text without any space. -/
namespace TierRouting

inductive Json where
  | null
  | bool (b : Bool)
  /-- A number, as it is written. -/
  | number (text : String)
  | string (s : String)
  | array (items : List Json)
  | object (members : List (String × Json))

namespace Json

def nat (n : Nat) : Json := number (toString n)

/-- Numbers are positional from `1e-5` up to `1e16`, and a whole number keeps its point. -/
def layout : Decimal.Layout where
  positional := some (-5, 16)
  keepsPoint := true
  tie := .toEven
  nan := "NaN"
  infinity := "inf"

/-- A floating-point number; one that is not finite has no form of its own. -/
def float (x : Float) : Json := if x.isFinite then number (layout.float x) else null

def float32 (x : Float32) : Json := if x.isFinite then number (layout.float32 x) else null

def optional (f : α → Json) : Option α → Json
  | some a => f a
  | none => null

mutual

def chars : Json → List Char
  | null => "null".toList
  | bool true => "true".toList
  | bool false => "false".toList
  | number text => text.toList
  | string s => quoted s.toList
  | array items => '[' :: itemChars items ++ [']']
  | object members => '\x7b' :: memberChars members ++ ['\x7d']

def itemChars : List Json → List Char
  | [] => []
  | [v] => v.chars
  | v :: r => v.chars ++ ',' :: itemChars r

def memberChars : List (String × Json) → List Char
  | [] => []
  | [(k, v)] => quoted k.toList ++ ':' :: v.chars
  | (k, v) :: r => quoted k.toList ++ ':' :: v.chars ++ ',' :: memberChars r

end

def text (v : Json) : String := String.ofList v.chars

/-- The value of the last member with a given key. -/
def get? (v : Json) (key : String) : Option Json :=
  match v with
  | object members => (members.reverse.find? (·.1 == key)).map (·.2)
  | _ => none

end Json
end TierRouting
