import TierRouting.Decimal.Layout
import TierRouting.Text.Shown

/-! Values of settings, how a later table overlays an earlier one, and what can be wrong with a
source of them. -/
namespace TierRouting.Config

inductive Value where
  /-- No value at all. -/
  | unit
  | string (s : String)
  /-- A quoted character, which serves as a string of its own. -/
  | char (c : Char)
  | bool (b : Bool)
  | signed (n : Int)
  | unsigned (n : Nat)
  | float (x : Float)
  | array (items : List Value)
  | table (entries : List (String × Value))

/-- The entries of a table, in ascending order of their keys. -/
abbrev Entries := List (String × Value)

namespace Entries

def get? (es : Entries) (key : String) : Option Value := (es.find? (·.1 == key)).map (·.2)

/-- Sets a key and keeps the order. -/
def insert (key : String) (v : Value) : Entries → Entries
  | [] => [(key, v)]
  | (k, w) :: r =>
    if key < k then (key, v) :: (k, w) :: r
    else if key = k then (key, v) :: r
    else (k, w) :: insert key v r

end Entries

mutual

/-- Tables are merged key by key; anything else is replaced. -/
def Value.overlay : Value → Value → Value
  | .table a, .table b => .table (overlayEntries a b)
  | _, v => v

def overlayEntries : Entries → Entries → Entries
  | a, [] => a
  | a, (k, v) :: r =>
    overlayEntries
      (a.insert k (match a.get? k with | some w => w.overlay v | none => v)) r

end

/-- Floating-point numbers in messages never have an exponent. -/
def messageLayout : Decimal.Layout where
  positional := none
  keepsPoint := false
  tie := .up
  nan := "NaN"
  infinity := "inf"

def quotedNumber (kind text : String) : String := kind ++ " \x60" ++ text ++ "\x60"

/-- What a message says was found in place of the expected value. -/
def Value.described : Value → String
  | unit => "unit"
  | string s => "string " ++ Text.shown s
  | char c => "string " ++ Text.shown (String.singleton c)
  | bool b => "bool " ++ toString b
  | signed n => quotedNumber "signed int" (toString n)
  | unsigned n => quotedNumber "unsigned int" (toString n)
  | float x => quotedNumber "float" (messageLayout.float x)
  | array _ => "sequence"
  | table _ => "map"

inductive Cause where
  | unknownKey (key : String) (valid : List String)
  | unknownVariant (value : String) (accepted : List String)
  | invalidType (found : Value) (expected : String)
  | invalidValue (found : Value) (expected : String)
  | invalidLength (length : Nat) (expected : String)
  | missingKey (key : String)
  | duplicateKey (key : String)
  /-- A document breaks the rules of its format. -/
  | syntaxError
  | text (message : String)

structure Fault where
  /-- The way to the value that the cause concerns. -/
  path : List String := []
  cause : Cause
  /-- The file that the value comes from, if it comes from one. -/
  file : Option String := none

end TierRouting.Config
