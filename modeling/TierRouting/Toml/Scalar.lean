import TierRouting.Config.Value
import TierRouting.Decimal.Read

/-! Strings, numbers and times as TOML writes them. -/
namespace TierRouting.Toml

open Config (Value)

/-- What a reader takes from the start of a text, with the rest. -/
abbrev Reader (α : Type) := List Char → Option (α × List Char)

def isSpace (c : Char) : Bool := c == ' ' || c == '\t'

def skipSpace (cs : List Char) : List Char := cs.dropWhile isSpace

/-- What follows a line end, if the text starts with one. -/
def dropNewline? : List Char → Option (List Char)
  | '\n' :: r => some r
  | '\r' :: '\n' :: r => some r
  | _ => none

/-- Controls other than the tab stand nowhere, not even in comments. -/
def isTextChar (c : Char) : Bool := c == '\t' || (32 ≤ c.toNat && c.toNat != 127)

def isHexDigit (c : Char) : Bool :=
  c.isDigit || ('a' ≤ c && c ≤ 'f') || ('A' ≤ c && c ≤ 'F')

/-- The character of a code point that is no surrogate. -/
def ofCodePoint? (digits : List Char) : Option Char :=
  let n := Decimal.digitsValue 16 digits
  if digits.all isHexDigit && n.isValidChar then some (Char.ofNat n) else none

def letterEscape? : Char → Option Char
  | 'b' => some '\x08'
  | 't' => some '\t'
  | 'n' => some '\n'
  | 'f' => some '\x0c'
  | 'r' => some '\r'
  | '"' => some '"'
  | '\\' => some '\\'
  | _ => none

/-- A basic string up to its closing quote. -/
def readBasic : Reader (List Char)
  | [] => none
  | '"' :: r => some ([], r)
  | '\\' :: 'u' :: a :: b :: c :: d :: r => do
    let x ← ofCodePoint? [a, b, c, d]
    let (s, rest) ← readBasic r
    some (x :: s, rest)
  | '\\' :: 'U' :: a :: b :: c :: d :: e :: f :: g :: h :: r => do
    let x ← ofCodePoint? [a, b, c, d, e, f, g, h]
    let (s, rest) ← readBasic r
    some (x :: s, rest)
  | '\\' :: e :: r => do
    let x ← letterEscape? e
    let (s, rest) ← readBasic r
    some (x :: s, rest)
  | c :: r =>
    if isTextChar c && c != '\\' then do
      let (s, rest) ← readBasic r
      some (c :: s, rest)
    else none

def apostrophe : Char := '\x27'

def readLiteral : Reader (List Char)
  | [] => none
  | c :: r =>
    if c = apostrophe then some ([], r)
    else if isTextChar c then do
      let (s, rest) ← readLiteral r
      some (c :: s, rest)
    else none

/-- Whether a backslash before `cs` joins the line with the next text. -/
def joinsLines (cs : List Char) : Bool := (dropNewline? (skipSpace cs)).isSome

/-- A basic string of several lines up to its closing quotes, which two more quotes may precede.
While `joining`, blanks and line ends are passed over. -/
def readBasicLines : Bool → Reader (List Char)
  | _, [] => none
  | true, ' ' :: r => readBasicLines true r
  | true, '\t' :: r => readBasicLines true r
  | true, '\n' :: r => readBasicLines true r
  | true, '\r' :: '\n' :: r => readBasicLines true r
  | _, '"' :: '"' :: '"' :: '"' :: '"' :: r => some (['"', '"'], r)
  | _, '"' :: '"' :: '"' :: '"' :: r => some (['"'], r)
  | _, '"' :: '"' :: '"' :: r => some ([], r)
  | _, '\r' :: '\n' :: r => do
    let (s, rest) ← readBasicLines false r
    some ('\n' :: s, rest)
  | _, '\n' :: r => do
    let (s, rest) ← readBasicLines false r
    some ('\n' :: s, rest)
  | _, '\\' :: 'u' :: a :: b :: c :: d :: r => do
    let x ← ofCodePoint? [a, b, c, d]
    let (s, rest) ← readBasicLines false r
    some (x :: s, rest)
  | _, '\\' :: 'U' :: a :: b :: c :: d :: e :: f :: g :: h :: r => do
    let x ← ofCodePoint? [a, b, c, d, e, f, g, h]
    let (s, rest) ← readBasicLines false r
    some (x :: s, rest)
  | _, '\\' :: e :: r =>
    if joinsLines (e :: r) then readBasicLines true (e :: r)
    else do
      let x ← letterEscape? e
      let (s, rest) ← readBasicLines false r
      some (x :: s, rest)
  | _, c :: r =>
    if isTextChar c && c != '\\' then do
      let (s, rest) ← readBasicLines false r
      some (c :: s, rest)
    else none

/-- A literal string of several lines, closed in the same way. -/
def readLiteralLines : Reader (List Char)
  | [] => none
  | '\r' :: '\n' :: r => do
    let (s, rest) ← readLiteralLines r
    some ('\n' :: s, rest)
  | '\n' :: r => do
    let (s, rest) ← readLiteralLines r
    some ('\n' :: s, rest)
  | c :: r =>
    if c = apostrophe then
      match (c :: r).takeWhile (· == apostrophe) with
      | [_, _, _] => some ([], r.drop 2)
      | [_, _, _, _] => some ([c], r.drop 3)
      | _ :: _ :: _ :: _ :: _ => some ([c, c], r.drop 4)
      | _ => do
        let (s, rest) ← readLiteralLines r
        some (c :: s, rest)
    else if isTextChar c then do
      let (s, rest) ← readLiteralLines r
      some (c :: s, rest)
    else none

/-- A line end right behind the opening quotes does not count. -/
def skipFirstNewline (cs : List Char) : List Char := (dropNewline? cs).getD cs

/-- Any of the four kinds of string. -/
def readString : Reader (List Char)
  | '"' :: '"' :: '"' :: r => readBasicLines false (skipFirstNewline r)
  | '"' :: r => readBasic r
  | '\x27' :: '\x27' :: '\x27' :: r => readLiteralLines (skipFirstNewline r)
  | '\x27' :: r => readLiteral r
  | _ => none

/-- Digits of a class, where one underscore may stand between two of them. -/
def takeDigits (p : Char → Bool) : List Char → List Char × List Char
  | [] => ([], [])
  | '_' :: d :: r =>
    if p d then
      let (ds, rest) := takeDigits p r
      (d :: ds, rest)
    else ([], '_' :: d :: r)
  | d :: r =>
    if p d then
      let (ds, rest) := takeDigits p r
      (d :: ds, rest)
    else ([], d :: r)

/-- One digit or more, of which the first has no underscore before it. -/
def readDigits (p : Char → Bool) : Reader (List Char)
  | [] => none
  | d :: r => if p d then some (takeDigits p (d :: r)) else none

/-- A whole number without needless zeros. -/
def readWhole : Reader (List Char)
  | '0' :: r => some (['0'], r)
  | cs => readDigits Char.isDigit cs

def readExponent : Reader (Option Char × List Char)
  | c :: r =>
    if c = 'e' ∨ c = 'E' then do
      let (sign, r) := Decimal.takeSign r
      let (digits, rest) ← readDigits Char.isDigit r
      some ((sign, digits), rest)
    else none
  | [] => none

def startsExponent (cs : List Char) : Bool := cs.head?.any fun c => c == 'e' || c == 'E'

/-- A number with a point or an exponent; one that is too great has no value. -/
def finiteFloat? (w : Decimal.Written) : Option Value :=
  let x := w.value
  if x == Decimal.infinity then none else some (.float x)

def inInt64 (n : Int) : Option Value :=
  if -0x8000000000000000 ≤ n ∧ n < 0x8000000000000000 then some (.signed n) else none

def specialFloat (sign : Option Char) (x : Float) : Value :=
  .float (if sign = some '-' then -x else x)

def notANumber : Float := 0.0 / 0.0

/-- A whole number or a float behind its sign. -/
def readSigned (sign : Option Char) (cs : List Char) : Option (Value × List Char) :=
  match cs with
  | 'i' :: 'n' :: 'f' :: r => some (specialFloat sign Decimal.infinity, r)
  | 'n' :: 'a' :: 'n' :: r => some (specialFloat sign notANumber, r)
  | _ => do
    let (whole, r) ← readWhole cs
    match r with
    | '.' :: r =>
      let (fraction, r) ← readDigits Char.isDigit r
      if startsExponent r then
        let (e, rest) ← readExponent r
        (finiteFloat? ⟨sign, whole, some fraction, some e⟩).map (·, rest)
      else (finiteFloat? ⟨sign, whole, some fraction, none⟩).map (·, r)
    | r =>
      if startsExponent r then
        let (e, rest) ← readExponent r
        (finiteFloat? ⟨sign, whole, none, some e⟩).map (·, rest)
      else
        let n : Int := Decimal.digitsValue 10 whole
        (inInt64 (if sign = some '-' then -n else n)).map (·, r)

/-- A whole number in a base that two characters have announced. -/
def readInBase (base : Nat) (p : Char → Bool) (cs : List Char) : Option (Value × List Char) := do
  let (digits, rest) ← readDigits p cs
  (inInt64 (Decimal.digitsValue base digits)).map (·, rest)

def readNumber : Reader Value
  | '0' :: 'x' :: r => readInBase 16 isHexDigit r
  | '0' :: 'o' :: r => readInBase 8 (fun c => '0' ≤ c && c ≤ '7') r
  | '0' :: 'b' :: r => readInBase 2 (fun c => c == '0' || c == '1') r
  | cs => readSigned (Decimal.takeSign cs).1 (Decimal.takeSign cs).2

end TierRouting.Toml
