import TierRouting.Json.Value

/-! Reading JSON text. -/
namespace TierRouting.Json

def isSpace (c : Char) : Bool := c == ' ' || c == '\n' || c == '\r' || c == '\t'

def skipSpace (cs : List Char) : List Char := cs.dropWhile isSpace

def isNumberChar (c : Char) : Bool :=
  c.isDigit || c == '-' || c == '+' || c == '.' || c == 'e' || c == 'E'

/-- No plus sign, no needless zero, and digits on both sides of a point. -/
def isNumber (cs : List Char) : Bool :=
  match Decimal.Written.ofChars? cs with
  | none => false
  | some w =>
    w.sign != some '+' && w.fraction != some [] &&
      match w.whole with
      | [] => false
      | c :: r => c != '0' || r.isEmpty

/-- What follows `w`, if the text starts with it. -/
def dropPhrase? : List Char → List Char → Option (List Char)
  | [], cs => some cs
  | _ :: _, [] => none
  | a :: w, c :: cs => if a = c then dropPhrase? w cs else none

def readNumber? (cs : List Char) : Option (Json × List Char) :=
  let text := cs.takeWhile isNumberChar
  if isNumber text then some (number (String.ofList text), cs.dropWhile isNumberChar) else none

mutual

/-- A value that starts the text; `depth` bounds the steps. -/
def readValue? : Nat → List Char → Option (Json × List Char)
  | 0, _ => none
  | depth + 1, cs =>
    match skipSpace cs with
    | '"' :: r => (readQuoted? r).map fun (s, rest) => (string (String.ofList s), rest)
    | '[' :: r =>
      match skipSpace r with
      | ']' :: rest => some (array [], rest)
      | r => (readItems? depth r).map fun (items, rest) => (array items, rest)
    | '\x7b' :: r =>
      match skipSpace r with
      | '\x7d' :: rest => some (object [], rest)
      | r => (readMembers? depth r).map fun (members, rest) => (object members, rest)
    | 't' :: r => (dropPhrase? "rue".toList r).map (bool true, ·)
    | 'f' :: r => (dropPhrase? "alse".toList r).map (bool false, ·)
    | 'n' :: r => (dropPhrase? "ull".toList r).map (null, ·)
    | cs => readNumber? cs

/-- The values up to the closing bracket, of which there is at least one. -/
def readItems? : Nat → List Char → Option (List Json × List Char)
  | 0, _ => none
  | depth + 1, cs => do
    let (v, r) ← readValue? depth cs
    match skipSpace r with
    | ',' :: r =>
      let (items, rest) ← readItems? depth r
      some (v :: items, rest)
    | ']' :: rest => some ([v], rest)
    | _ => none

/-- The members up to the closing brace, of which there is at least one. -/
def readMembers? : Nat → List Char → Option (List (String × Json) × List Char)
  | 0, _ => none
  | depth + 1, cs => do
    let r ← dropPhrase? ['"'] (skipSpace cs)
    let (k, r) ← readQuoted? r
    let r ← dropPhrase? [':'] (skipSpace r)
    let (v, r) ← readValue? depth r
    match skipSpace r with
    | ',' :: r =>
      let (members, rest) ← readMembers? depth r
      some ((String.ofList k, v) :: members, rest)
    | '\x7d' :: rest => some ([(String.ofList k, v)], rest)
    | _ => none

end

/-- The value that a text holds. -/
def read? (text : String) : Option Json :=
  match readValue? (text.length + 1) text.toList with
  | some (v, rest) => if (skipSpace rest).isEmpty then some v else none
  | none => none

/-- The natural number that a value writes without point or exponent. -/
def nat? : Json → Option Nat
  | number text =>
    let cs := text.toList
    if cs.all Char.isDigit && !cs.isEmpty then some (Decimal.digitsValue 10 cs) else none
  | _ => none

def float? : Json → Option Float
  | number text => (Decimal.Written.ofChars? text.toList).map (·.value)
  | _ => none

end TierRouting.Json
