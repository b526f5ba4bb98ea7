import TierRouting.Text.RangeTable
import TierRouting.Text.Alphabetic
import TierRouting.Text.Mark

/-! White space, letters, digits and word characters; trimming, and the words between. ASCII is
decided without the tables. The two classes of patterns, digits and word characters, are closed at
Unicode 16: later characters are in neither. -/
namespace TierRouting.Text

/-- The Unicode property White_Space. -/
def isBlank (c : Char) : Bool :=
  let n := c.toNat
  (9 ≤ n && n ≤ 13) || n == 32 || n == 0x85 || n == 0xa0 || n == 0x1680 ||
    (0x2000 ≤ n && n ≤ 0x200a) || n == 0x2028 || n == 0x2029 || n == 0x202f ||
    n == 0x205f || n == 0x3000

def isDigit (c : Char) : Bool :=
  if c.toNat < 128 then c.isDigit else decimalDigit.contains c && !age17.contains c

def isAlphanumeric (c : Char) : Bool :=
  if c.toNat < 128 then c.isAlphanum
  else alphabetic.contains c || decimalDigit.contains c || otherNumber.contains c

/-- The general category Pc outside ASCII, and the joiners. -/
def isConnector (c : Char) : Bool :=
  let n := c.toNat
  n == 0x200c || n == 0x200d || n == 0x203f || n == 0x2040 || n == 0x2054 ||
    n == 0xfe33 || n == 0xfe34 || (0xfe4d ≤ n && n ≤ 0xfe4f) || n == 0xff3f

/-- Letters, marks, decimal digits and connectors: what a word boundary lies beside. -/
def isWordChar (c : Char) : Bool :=
  if c.toNat < 128 then c.isAlphanum || c == '_'
  else
    (alphabetic.contains c || mark.contains c || decimalDigit.contains c || isConnector c) &&
      !age17.contains c

def trimStart (cs : List Char) : List Char := cs.dropWhile isBlank

def trimEnd (cs : List Char) : List Char := (cs.reverse.dropWhile isBlank).reverse

def trim (cs : List Char) : List Char := trimEnd (trimStart cs)

def allBlank (cs : List Char) : Bool := cs.all isBlank

/-- The maximal runs of characters with the property `p`, in order. -/
def runs (p : Char → Bool) : List Char → List (List Char)
  | [] => []
  | c :: r =>
    if p c then
      if r.head?.any p then
        match runs p r with
        | w :: ws => (c :: w) :: ws
        | [] => [[c]]
      else [c] :: runs p r
    else runs p r

def words (cs : List Char) : List (List Char) := runs (fun c => !isBlank c) cs

end TierRouting.Text
