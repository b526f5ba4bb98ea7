import TierRouting.Toml.Document
import TierRouting.Toml.Moment

/-! Reading a TOML document as a table of settings. -/
namespace TierRouting.Toml

open Config (Value Entries)

/-- Arrays, inline tables and dotted keys go less deep than this. -/
def depthLimit : Nat := 80

def isBareKeyChar (c : Char) : Bool := c.isAlphanum || c == '_' || c == '-'

def readSimpleKey : Reader (List Char)
  | '"' :: r => readBasic r
  | '\x27' :: r => readLiteral r
  | cs =>
    let key := cs.takeWhile isBareKeyChar
    if key.isEmpty then none else some (key, cs.dropWhile isBareKeyChar)

/-- The parts of a key between dots, with the blanks around them. -/
def readKeyParts : Nat → Reader (List String)
  | 0, _ => none
  | steps + 1, cs => do
    let (part, r) ← readSimpleKey (skipSpace cs)
    match skipSpace r with
    | '.' :: r =>
      let (parts, rest) ← readKeyParts steps r
      some (String.ofList part :: parts, rest)
    | rest => some ([String.ofList part], rest)

def readKey : Reader (List String) := fun cs => do
  let (parts, rest) ← readKeyParts (cs.length + 1) cs
  if parts.length < depthLimit then some (parts, rest) else none

/-- The rest of a comment up to the line end. -/
def skipComment : List Char → List Char
  | [] => []
  | c :: r => if isTextChar c then skipComment r else c :: r

/-- Passes over blanks, line ends and comments. -/
def skipFiller : Nat → List Char → List Char
  | 0, cs => cs
  | steps + 1, cs =>
    match skipSpace cs with
    | '#' :: r => skipFiller steps (skipComment r)
    | cs =>
      match dropNewline? cs with
      | some r => skipFiller steps r
      | none => cs

/-- The rest of a line holds at most a comment. -/
def dropLineEnd? (cs : List Char) : Option (List Char) :=
  let r :=
    match skipSpace cs with
    | '#' :: r => skipComment r
    | r => r
  if r.isEmpty then some [] else dropNewline? r

def readWord : Reader Value
  | 't' :: 'r' :: 'u' :: 'e' :: r => some (.bool true, r)
  | 'f' :: 'a' :: 'l' :: 's' :: 'e' :: r => some (.bool false, r)
  | cs =>
    match readMoment cs with
    | some m => some m
    | none => readNumber cs

/-- The entries of an inline table, which obeys the rules for keys of a document. -/
def inlineEntries (pairs : List (List String × Value)) : Option Entries :=
  (pairs.foldlM (fun (nodes : Nodes) (keys, v) => nodes.addKey keys v) []).map nodesEntries

mutual

/-- A value inside `depth` arrays and inline tables; `steps` bounds the reading. -/
def readValue : Nat → Nat → Reader Value
  | 0, _, _ => none
  | steps + 1, depth, cs =>
    match cs with
    | '"' :: _ => (readString cs).map fun (s, rest) => (.string (String.ofList s), rest)
    | '\x27' :: _ => (readString cs).map fun (s, rest) => (.string (String.ofList s), rest)
    | '[' :: r =>
      if depth + 1 < depthLimit then
        (readItems steps (depth + 1) r).map fun (items, rest) => (.array items, rest)
      else none
    | '\x7b' :: r =>
      if depth + 1 < depthLimit then
        match skipSpace r with
        | '\x7d' :: rest => some (.table [], rest)
        | _ => do
          let (pairs, rest) ← readPairs steps (depth + 1) r
          let entries ← inlineEntries pairs
          some (.table entries, rest)
      else none
    | _ => readWord cs

/-- The items of an array up to its bracket; a comma may follow the last one. -/
def readItems : Nat → Nat → Reader (List Value)
  | 0, _, _ => none
  | steps + 1, depth, cs =>
    match skipFiller (cs.length + 1) cs with
    | ']' :: rest => some ([], rest)
    | cs => do
      let (v, r) ← readValue steps depth cs
      match skipFiller (r.length + 1) r with
      | ',' :: r =>
        let (items, rest) ← readItems steps depth r
        some (v :: items, rest)
      | ']' :: rest => some ([v], rest)
      | _ => none

/-- The pairs of an inline table up to its brace, on one line and at least one. -/
def readPairs : Nat → Nat → Reader (List (List String × Value))
  | 0, _, _ => none
  | steps + 1, depth, cs => do
    let (keys, r) ← readKey cs
    let r ← dropChar? '=' r
    let (v, r) ← readValue steps depth (skipSpace r)
    match skipSpace r with
    | ',' :: r =>
      let (pairs, rest) ← readPairs steps depth r
      some ((keys, v) :: pairs, rest)
    | '\x7d' :: rest => some ([(keys, v)], rest)
    | _ => none

end

/-- A header, a pair or an empty line: the tables after it, the open table, and the rest. -/
def readLine (current : List String) (nodes : Nodes) (cs : List Char) :
    Option (List String × Nodes × List Char) :=
  match cs with
  | '[' :: '[' :: r => do
    let (path, r) ← readKey r
    let r ← (dropChar? ']' r).bind (dropChar? ']')
    let rest ← dropLineEnd? r
    some (path, ← nodes.openElement path, rest)
  | '[' :: r => do
    let (path, r) ← readKey r
    let rest ← (dropChar? ']' r).bind dropLineEnd?
    some (path, ← nodes.openTable path, rest)
  | '#' :: _ => (dropLineEnd? cs).map (current, nodes, ·)
  | '\n' :: _ => (dropLineEnd? cs).map (current, nodes, ·)
  | '\r' :: _ => (dropLineEnd? cs).map (current, nodes, ·)
  | _ => do
    let (keys, r) ← readKey cs
    let r ← dropChar? '=' r
    let (v, r) ← readValue (r.length + 1) 0 (skipSpace r)
    let rest ← dropLineEnd? r
    let nodes ← Nodes.within false (fun _ nodes => nodes.addKey keys v) current .header nodes
    some (current, nodes, rest)

def readLines : Nat → List String → Nodes → List Char → Option Nodes
  | 0, _, _, _ => none
  | steps + 1, current, nodes, cs =>
    match skipSpace cs with
    | [] => some nodes
    | cs => do
      let (current, nodes, rest) ← readLine current nodes cs
      readLines steps current nodes rest

/-- The table that a document holds, or nothing if it breaks a rule of the format. -/
def parse? (text : String) : Option Entries :=
  let cs :=
    match text.toList with
    | '\ufeff' :: r => r
    | cs => cs
  (readLines (cs.length + 1) [] [] cs).map nodesEntries

end TierRouting.Toml
