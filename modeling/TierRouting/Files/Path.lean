import TierRouting.Text.Lines

/-! Paths and their components. -/
namespace TierRouting.Path

inductive Component where
  | root
  /-- A single dot; it counts only at the start of a relative path. -/
  | here
  | up
  | name (s : List Char)
deriving DecidableEq

def isAbsolute (path : String) : Bool := path.toList.head? == some '/'

def ofPiece : List Char → Component
  | ['.'] => .here
  | ['.', '.'] => .up
  | s => .name s

/-- The pieces between slashes that are not empty. -/
def pieces (path : String) : List Component :=
  ((Text.splitAt '/' path.toList).filter (!·.isEmpty)).map ofPiece

/-- What two spellings of one path have in common. -/
def components (path : String) : List Component :=
  if isAbsolute path then .root :: (pieces path).filter (· != .here)
  else
    match pieces path with
    | [] => []
    | c :: r => c :: r.filter (· != .here)

def Component.text : Component → List Char
  | root => []
  | here => ['.']
  | up => ['.', '.']
  | name s => s

/-- The path that components write. -/
def ofComponents : List Component → String
  | [.root] => "/"
  | cs => String.ofList (Text.joinWith '/' (cs.map (·.text)))

/-- A path seen from a directory. An absolute path stays as it is. -/
def join (directory path : String) : String :=
  if isAbsolute path || directory.isEmpty then path
  else if directory.toList.getLast? = some '/' then directory ++ path
  else directory ++ "/" ++ path

/-- The way from one list of components to another once the common start is dropped. -/
def relativeTo : List Component → List Component → List Component
  | a :: as, b :: bs => if a = b then relativeTo as bs else .up :: bs.map (fun _ => .up) ++ a :: as
  | as, bs => bs.map (fun _ => .up) ++ as

/-- A path as messages name it: seen from the working directory if that takes fewer components. -/
def display (directory path : String) : String :=
  if isAbsolute path && isAbsolute directory then
    let relative := relativeTo (components path) (components directory)
    if relative.length < (components path).length then ofComponents relative else path
  else path

end TierRouting.Path
