import TierRouting.Config.Value
import TierRouting.Json.Quoted
import TierRouting.Text.CharClass
import TierRouting.Text.Lines

/-! Settings from environment variables: their names and their values. -/
namespace TierRouting.Config

/-- The variables with their values, in ascending order of the names. -/
structure Environment where
  bindings : List (String × String)

namespace Environment

def get? (env : Environment) (name : String) : Option String :=
  (env.bindings.find? (·.1 == name)).map (·.2)

def namePrefix : List Char := "blufio_".toList

/-- Sections of the settings with the start of a name that leads to each, the longest first. -/
def sections : List (String × String) :=
  [("routing_budget_", "routing.budget."), ("routing_analytics_", "routing.analytics."),
    ("routing_tiers_", "routing.tiers."), ("routing_", "routing."), ("providers_", "providers."),
    ("agent_", "agent.")]

/-- What follows `start` in a text. -/
def dropStart? (start cs : List Char) : Option (List Char) :=
  if start.isPrefixOf cs then some (cs.drop start.length) else none

def sectionPath (key : List Char) : List (String × String) → List Char
  | [] => key
  | (start, path) :: r =>
    match dropStart? start.toList key with
    | some rest => path.toList ++ rest
    | none => sectionPath key r

/-- The dotted path of a setting from the rest of a variable's name, whatever its case. -/
def settingPath (key : List Char) : List Char := sectionPath (key.map Char.toLower) sections

/-- The path that a variable sets, if it is one of ours and no part of the path is empty. -/
def path? (name : String) : Option (List (List Char)) := do
  let name := Text.trim name.toList
  let start := name.take namePrefix.length
  if start.map Char.toLower = namePrefix then
    let parts := Text.splitAt '.' (Text.trim (settingPath (name.drop namePrefix.length)))
    if parts.any (·.isEmpty) then none else some parts
  else none

/-- White space within ASCII. -/
def isSpace (c : Char) : Bool := c == ' ' || c == '\t' || c == '\n' || c == '\x0c' || c == '\r'

def skipSpace (cs : List Char) : List Char := cs.dropWhile isSpace

def isBareChar (c : Char) : Bool :=
  !(c == ',' || c == '\x7b' || c == '\x7d' || c == '[' || c == ']')

def isKeyChar (c : Char) : Bool := c.isAlphanum || c == '_' || c == '-'

def letterEscape? : Char → Option Char
  | '"' => some '"'
  | '\\' => some '\\'
  | 'b' => some '\x08'
  | 'f' => some '\x0c'
  | 'n' => some '\n'
  | 'r' => some '\r'
  | 't' => some '\t'
  | _ => none

def ofCodePoint? (digits : List Char) : Option Char := do
  let n ← Json.hexValue? digits
  if n.isValidChar then some (Char.ofNat n) else none

/-- A character of a quoted string that stands for itself. -/
def isPlain (c : Char) : Bool :=
  (c == '\t' || 32 ≤ c.toNat && c.toNat != 127) && c != '"' && c != '\\'

/-- A quoted string up to its closing quote, with its escapes resolved. -/
def readEscaped : List Char → Option (List Char × List Char)
  | [] => none
  | '"' :: r => some ([], r)
  | '\\' :: 'u' :: a :: b :: c :: d :: r => do
    let x ← ofCodePoint? [a, b, c, d]
    let (s, rest) ← readEscaped r
    some (x :: s, rest)
  | '\\' :: 'U' :: a :: b :: c :: d :: e :: f :: g :: h :: r => do
    let x ← ofCodePoint? [a, b, c, d, e, f, g, h]
    let (s, rest) ← readEscaped r
    some (x :: s, rest)
  | '\\' :: e :: r => do
    let x ← letterEscape? e
    let (s, rest) ← readEscaped r
    some (x :: s, rest)
  | c :: r =>
    if isPlain c then do
      let (s, rest) ← readEscaped r
      some (c :: s, rest)
    else none

/-- A quoted string up to its closing quote. Of the text before the first escape only as many
bytes stay as it has characters, so ASCII stays whole; without escapes everything stays. -/
def readQuoted (cs : List Char) : Option (List Char × List Char) :=
  let plain := cs.takeWhile isPlain
  match cs.dropWhile isPlain with
  | '"' :: rest => some (plain, rest)
  | cs =>
    (readEscaped cs).map fun (s, rest) => (Text.takeBytes plain.length plain ++ s, rest)

def unsigned? (cs : List Char) : Option Nat :=
  let digits := if cs.head? = some '+' then cs.drop 1 else cs
  let n := Decimal.digitsValue 10 digits
  if !digits.isEmpty && digits.all Char.isDigit && n < 0x10000000000000000 then some n else none

def negative? (cs : List Char) : Option Int :=
  match cs with
  | '-' :: digits =>
    let n := Decimal.digitsValue 10 digits
    if !digits.isEmpty && digits.all Char.isDigit && n ≤ 0x8000000000000000 then some (-n) else none
  | _ => none

def float? (cs : List Char) : Option Float :=
  match Decimal.Written.ofChars? cs with
  | some w =>
    if w.fraction.isSome && !(w.whole.isEmpty && w.fraction = some []) then some w.value else none
  | none => none

/-- A word without quotes: a number if it looks like one, and a string otherwise. -/
def bareValue (word : List Char) : Value :=
  match float? word, unsigned? word, negative? word with
  | some x, _, _ => .float x
  | none, some n, _ => .unsigned n
  | none, none, some n => .signed n
  | none, none, none => .string (String.ofList word)

def readKey (cs : List Char) : Option (String × List Char) :=
  match skipSpace cs with
  | '"' :: r => (readQuoted r).map fun (s, rest) => (String.ofList s, skipSpace rest)
  | cs =>
    let key := cs.takeWhile isKeyChar
    if key.isEmpty then none
    else some (String.ofList key, skipSpace (cs.dropWhile isKeyChar))

mutual

/-- A value with the space around it; `steps` bounds the reading. -/
def readValue : Nat → List Char → Option (Value × List Char)
  | 0, _ => none
  | steps + 1, cs => do
    let (v, rest) ←
      match skipSpace cs with
      | 't' :: 'r' :: 'u' :: 'e' :: r => some (Value.bool true, r)
      | 'f' :: 'a' :: 'l' :: 's' :: 'e' :: r => some (Value.bool false, r)
      | '\x7b' :: r => (readPairs steps r).map fun (pairs, rest) => (Value.table pairs, rest)
      | '[' :: r => (readItems steps r).map fun (items, rest) => (Value.array items, rest)
      | '"' :: r => (readQuoted r).map fun (s, rest) => (Value.string (String.ofList s), rest)
      | '\x27' :: c :: '\x27' :: r => some (Value.char c, r)
      | '\x27' :: _ => none
      | cs => some (bareValue (Text.trim (cs.takeWhile isBareChar)), cs.dropWhile isBareChar)
    some (v, skipSpace rest)

def readItems : Nat → List Char → Option (List Value × List Char)
  | 0, _ => none
  | _ + 1, ']' :: rest => some ([], rest)
  | steps + 1, cs => do
    let (v, r) ← readValue steps cs
    match r with
    | ',' :: r =>
      let (items, rest) ← readItems steps r
      some (v :: items, rest)
    | ']' :: rest => some ([v], rest)
    | _ => none

/-- The pairs of a table, where a later one replaces an earlier one of the same key. -/
def readPairs : Nat → List Char → Option (Entries × List Char)
  | 0, _ => none
  | _ + 1, '\x7d' :: rest => some ([], rest)
  | steps + 1, cs => do
    let (key, r) ← readKey cs
    match r with
    | '=' :: r =>
      let (v, r) ← readValue steps r
      match r with
      | ',' :: r =>
        let (pairs, rest) ← readPairs steps r
        some (if (pairs.get? key).isSome then pairs else pairs.insert key v, rest)
      | '\x7d' :: rest => some ([(key, v)], rest)
      | _ => none
    | _ => none

end

/-- The value of a variable. A text that is not a value from end to end is a string as it is. -/
def value (text : String) : Value :=
  match readValue (text.length + 2) text.toList with
  | some (v, []) => v
  | _ => .string text

/-- The table that sets one value at the end of a path. -/
def nested : List (List Char) → Value → Value
  | [], v => v
  | part :: r, v => .table [(String.ofList part, nested r v)]

/-- What the variables set, later names over earlier ones. -/
def entries (env : Environment) : Entries :=
  env.bindings.foldl
    (fun es (name, text) =>
      match path? name with
      | some path =>
        match nested path (value text) with
        | .table new => overlayEntries es new
        | _ => es
      | none => es)
    []

end Environment
end TierRouting.Config
