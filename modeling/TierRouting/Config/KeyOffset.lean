import TierRouting.Text.CharClass
import TierRouting.Text.Lines

/-! Where a key stands in the text of a document. Offsets count UTF-8 bytes. -/
namespace TierRouting.Config

open Text

/-- The text behind the first occurrence of `w`, and where that text starts. -/
def dropThrough? (w : List Char) : List Char → Option (Nat × List Char)
  | [] => if w.isEmpty then some (0, []) else none
  | c :: r =>
    if w.isPrefixOf (c :: r) then some (byteLength w, (c :: r).drop w.length)
    else (dropThrough? w r).map fun (n, rest) => (n + c.utf8Size, rest)

def endsKey (c : Char) : Bool := c == ' ' || c == '=' || c == '\t'

/-- Whether a line without its indentation sets the key. -/
def setsKey (field line : List Char) : Bool :=
  field.isPrefixOf line && (line.drop field.length).head?.any endsKey

/-- The first line that sets the key, unless a later line opens another table before it. -/
def offsetIn (field : List Char) : Nat → List (List Char) → Option Nat
  | _, [] => none
  | offset, line :: r =>
    let trimmed := trimStart line
    if trimmed.head? = some '[' ∧ 0 < offset then none
    else if setsKey field trimmed then some (offset + (byteLength line - byteLength trimmed))
    else offsetIn field (offset + byteLength line) r

/-- The offset of a key in the section whose header names `path`; without a path the search
starts at the top. -/
def keyOffset? (content : String) (path : List String) (field : String) : Option Nat := do
  let (start, rest) ←
    if path.isEmpty then some (0, content.toList)
    else dropThrough? ('[' :: (String.intercalate "." path).toList ++ [']']) content.toList
  let offset ← offsetIn field.toList 0 (wholeLines rest)
  some (start + offset)

end TierRouting.Config
