import TierRouting.Config.Value

/-! The tables of a document while its lines are read. No key is ever set twice. -/
namespace TierRouting.Toml

open Config (Value Entries)

/-- How a table has come about. -/
inductive TableKind where
  /-- It has a header or is an element of an array of tables. -/
  | header
  /-- A longer header has passed through it. -/
  | passed
  /-- A dotted key has passed through it. -/
  | dotted
deriving DecidableEq

inductive Node where
  | leaf (v : Value)
  | table (kind : TableKind) (nodes : List (String × Node))
  | tables (items : List (List (String × Node)))

abbrev Nodes := List (String × Node)

namespace Nodes

def get? (nodes : Nodes) (key : String) : Option Node := (nodes.find? (·.1 == key)).map (·.2)

def set (nodes : Nodes) (key : String) (n : Node) : Nodes :=
  (nodes.filter (·.1 != key)) ++ [(key, n)]

/-- Changes the table at the end of a path and makes the tables on the way. An array of tables
stands for its last element. Dotted keys do not enter tables that have a header. -/
def within (dotted : Bool) (f : TableKind → Nodes → Option Nodes) :
    List String → TableKind → Nodes → Option Nodes
  | [], kind, nodes => f kind nodes
  | key :: path, _, nodes =>
    match nodes.get? key with
    | none => do
      let kind := if dotted then .dotted else .passed
      let inner ← within dotted f path kind []
      some (nodes.set key (.table kind inner))
    | some (.leaf _) => none
    | some (.table kind inner) =>
      if dotted && kind = .header then none
      else (within dotted f path kind inner).map fun inner => nodes.set key (.table kind inner)
    | some (.tables items) =>
      (within dotted f path .header (items.getLastD [])).map fun inner =>
        nodes.set key (.tables (items.dropLast ++ [inner]))

/-- Sets a new key of the table that the keys before it lead to. A table that a header has
opened takes no dotted keys from outside. -/
def addKey (keys : List String) (v : Value) (nodes : Nodes) : Option Nodes :=
  match keys.getLast? with
  | none => none
  | some key =>
    let path := keys.dropLast
    within true
      (fun kind nodes =>
        if (kind == .dotted) == path.isEmpty then none
        else if (nodes.get? key).isSome then none
        else some (nodes.set key (.leaf v)))
      path .header nodes

/-- Opens the table of a header, which no header has opened before. -/
def openTable (path : List String) (nodes : Nodes) : Option Nodes :=
  match path.getLast? with
  | none => none
  | some key =>
    within false
      (fun _ nodes =>
        match nodes.get? key with
        | none => some (nodes.set key (.table .header []))
        | some (.table .passed inner) => some (nodes.set key (.table .header inner))
        | some _ => none)
      path.dropLast .header nodes

/-- Opens one more element of an array of tables. -/
def openElement (path : List String) (nodes : Nodes) : Option Nodes :=
  match path.getLast? with
  | none => none
  | some key =>
    within false
      (fun _ nodes =>
        match nodes.get? key with
        | none => some (nodes.set key (.tables [[]]))
        | some (.tables items) => some (nodes.set key (.tables (items ++ [[]])))
        | some _ => none)
      path.dropLast .header nodes

end Nodes

mutual

def Node.value : Node → Value
  | .leaf v => v
  | .table _ nodes => .table (nodesEntries nodes)
  | .tables items => .array (tablesValues items)

def nodesEntries : List (String × Node) → Entries
  | [] => []
  | (key, n) :: r => Entries.insert key n.value (nodesEntries r)

def tablesValues : List (List (String × Node)) → List Value
  | [] => []
  | nodes :: r => .table (nodesEntries nodes) :: tablesValues r

end

end TierRouting.Toml
