import TierRouting.Text.Printable

/-! A text as messages show it: between quotes, with everything visible. -/
namespace TierRouting.Text

/-- A character by its number in hexadecimal. -/
def byNumber (c : Char) : List Char :=
  '\\' :: 'u' :: '\x7b' :: Nat.toDigits 16 c.toNat ++ ['\x7d']

/-- What is written for a character that never stands for itself between quotes. -/
def escape? (c : Char) : Option (List Char) :=
  match c with
  | '\x00' => some ['\\', '0']
  | '\t' => some ['\\', 't']
  | '\r' => some ['\\', 'r']
  | '\n' => some ['\\', 'n']
  | '\\' => some ['\\', '\\']
  | '"' => some ['\\', '"']
  | c => if defaultIgnorable.contains c || unprintable.contains c then some (byNumber c) else none

/-- The characters as they are shown. One that joins the character before it stands for itself
only behind one that does so too, which is what `joins` says of the character before. -/
def shownChars : Bool → List Char → List Char
  | _, [] => []
  | joins, c :: r =>
    match escape? c with
    | some e => e ++ shownChars false r
    | none =>
      if !joins && graphemeExtend.contains c then byNumber c ++ shownChars false r
      else c :: shownChars true r

def shown (s : String) : String := String.ofList ('"' :: shownChars false s.toList ++ ['"'])

end TierRouting.Text
