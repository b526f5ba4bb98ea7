import TierRouting.Decimal.Read

/-! Strings between quotes: how they are escaped and read back. -/
namespace TierRouting.Json

def hexDigits : List Char := "0123456789abcdef".toList

/-- The two hexadecimal digits of a number below 256. -/
def hexPair (n : Nat) : List Char :=
  [hexDigits.getD (n / 16) '0', hexDigits.getD (n % 16) '0']

/-- Quotes, backslashes and controls are escaped, by a letter where there is one. -/
def escapeChar (c : Char) : List Char :=
  match c with
  | '"' => ['\\', '"']
  | '\\' => ['\\', '\\']
  | '\x08' => ['\\', 'b']
  | '\x0c' => ['\\', 'f']
  | '\n' => ['\\', 'n']
  | '\r' => ['\\', 'r']
  | '\t' => ['\\', 't']
  | c => if c.toNat < 32 then '\\' :: 'u' :: '0' :: '0' :: hexPair c.toNat else [c]

def quoted (s : List Char) : List Char := '"' :: s.flatMap escapeChar ++ ['"']

def isHexDigit (c : Char) : Bool :=
  c.isDigit || ('a' ≤ c && c ≤ 'f') || ('A' ≤ c && c ≤ 'F')

def hexValue? (cs : List Char) : Option Nat :=
  if cs.all isHexDigit then some (Decimal.digitsValue 16 cs) else none

def letterEscape? : Char → Option Char
  | '"' => some '"'
  | '\\' => some '\\'
  | '/' => some '/'
  | 'b' => some '\x08'
  | 'f' => some '\x0c'
  | 'n' => some '\n'
  | 'r' => some '\r'
  | 't' => some '\t'
  | _ => none

def isHighSurrogate (n : Nat) : Bool := 0xd800 ≤ n && n < 0xdc00

def isLowSurrogate (n : Nat) : Bool := 0xdc00 ≤ n && n < 0xe000

def ofSurrogates (high low : Nat) : Char :=
  Char.ofNat (0x10000 + (high - 0xd800) * 0x400 + (low - 0xdc00))

/-- The string up to the closing quote, and what follows the quote. -/
def readQuoted? : List Char → Option (List Char × List Char)
  | [] => none
  | '"' :: r => some ([], r)
  | '\\' :: 'u' :: a :: b :: c :: d :: r => do
    let n ← hexValue? [a, b, c, d]
    if isHighSurrogate n then
      match r with
      | '\\' :: 'u' :: a :: b :: c :: d :: r =>
        let low ← hexValue? [a, b, c, d]
        if isLowSurrogate low then
          let (s, rest) ← readQuoted? r
          some (ofSurrogates n low :: s, rest)
        else none
      | _ => none
    else if isLowSurrogate n then none
    else
      let (s, rest) ← readQuoted? r
      some (Char.ofNat n :: s, rest)
  | '\\' :: e :: r => do
    let c ← letterEscape? e
    let (s, rest) ← readQuoted? r
    some (c :: s, rest)
  | c :: r =>
    if c.toNat < 32 || c == '\\' then none
    else do
      let (s, rest) ← readQuoted? r
      some (c :: s, rest)

end TierRouting.Json
