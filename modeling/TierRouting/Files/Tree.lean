import TierRouting.Files.Path

/-! A tree of directories and files, and the ways in which using it fails. -/
namespace TierRouting

inductive FileError where
  | notFound
  | alreadyExists
  | notADirectory
  | isADirectory
  | nameTooLong
  | nulInName
  | notUtf8
deriving DecidableEq

def FileError.message : FileError → String
  | notFound => "No such file or directory (os error 2)"
  | alreadyExists => "File exists (os error 17)"
  | notADirectory => "Not a directory (os error 20)"
  | isADirectory => "Is a directory (os error 21)"
  | nameTooLong => "File name too long (os error 36)"
  | nulInName => "file name contained an unexpected NUL byte"
  | notUtf8 => "stream did not contain valid UTF-8"

/-- A place in the tree: the names on the way from the root. -/
abbrev Place := List (List Char)

inductive Entry where
  | directory
  | file (content : ByteArray)

/-- The entries below the root, which is a directory itself. -/
structure FileTree where
  entries : List (Place × Entry) := []

namespace FileTree

def get? (t : FileTree) (p : Place) : Option Entry :=
  if p = [] then some .directory else (t.entries.find? (·.1 == p)).map (·.2)

def set (t : FileTree) (p : Place) (e : Entry) : FileTree :=
  ⟨(p, e) :: t.entries.filter (·.1 != p)⟩

def isDirectory (t : FileTree) (p : Place) : Bool :=
  match t.get? p with
  | some .directory => true
  | _ => false

/-- Follows names through directories; the last one may lead nowhere. -/
def walk (t : FileTree) : Place → List Path.Component → Except FileError Place
  | at_, [] => .ok at_
  | _, .root :: r => t.walk [] r
  | at_, .here :: r => t.walk at_ r
  | at_, .up :: r => t.walk at_.dropLast r
  | at_, .name s :: r =>
    let next := at_ ++ [s]
    if 255 < (String.ofList s).utf8ByteSize then .error .nameTooLong
    else if r.isEmpty then .ok next
    else
      match t.get? next with
      | some .directory => t.walk next r
      | some (.file _) => .error .notADirectory
      | none => .error .notFound

def endsInSlash (path : String) : Bool := path.toList.getLast? == some '/'

def checkName (path : String) : Except FileError Unit :=
  if path.toList.contains '\x00' then .error .nulInName
  else if path.isEmpty then .error .notFound
  else if 4096 ≤ path.utf8ByteSize then .error .nameTooLong
  else .ok ()

/-- The steps that a path asks for, a leading slash included. -/
def steps (path : String) : List Path.Component :=
  (if Path.isAbsolute path then [.root] else []) ++ Path.pieces path

/-- The place that a path names from a directory. -/
def locate (t : FileTree) (directory : Place) (path : String) : Except FileError Place := do
  checkName path
  t.walk directory (steps path)

/-- The content of the file at a path. -/
def read (t : FileTree) (directory : Place) (path : String) : Except FileError ByteArray := do
  let p ← t.locate directory path
  match t.get? p with
  | none => .error .notFound
  | some .directory => .error .isADirectory
  | some (.file content) => if endsInSlash path then .error .notADirectory else .ok content

def readText (t : FileTree) (directory : Place) (path : String) : Except FileError String := do
  match String.fromUTF8? (← t.read directory path) with
  | some text => .ok text
  | none => .error .notUtf8

def isFile (t : FileTree) (directory : Place) (path : String) : Bool :=
  match t.read directory path with
  | .ok _ => true
  | .error _ => false

def endsInName (path : String) : Bool :=
  match (Path.pieces path).getLast? with
  | some (.name _) => !endsInSlash path
  | _ => false

/-- Opens the file at a path for appending and makes it if it is missing. -/
def openAppend (t : FileTree) (directory : Place) (path : String) :
    Except FileError (FileTree × Place) := do
  let p ← t.locate directory path
  if endsInName path then
    match t.get? p with
    | none => .ok (t.set p (.file .empty), p)
    | some (.file _) => .ok (t, p)
    | some .directory => .error .isADirectory
  else .error .isADirectory

def append (t : FileTree) (p : Place) (bytes : ByteArray) : FileTree :=
  match t.get? p with
  | some (.file content) => t.set p (.file (content ++ bytes))
  | _ => t

def makeDirectory (t : FileTree) (directory : Place) (path : String) :
    Except FileError FileTree := do
  let p ← t.locate directory path
  match t.get? p with
  | none => .ok (t.set p .directory)
  | some _ => .error .alreadyExists

def namesDirectory (t : FileTree) (directory : Place) (path : String) : Bool :=
  match t.locate directory path with
  | .ok p => t.isDirectory p
  | .error _ => false

/-- Makes the directory at a path, given by its components from the last one on, and those on the
way that are missing. What was made stays, also when a later step fails. -/
def makeDirectories (t : FileTree) (directory : Place) :
    List Path.Component → FileTree × Except FileError Unit
  | [] => (t, .ok ())
  | c :: parents =>
    let path := Path.ofComponents (c :: parents).reverse
    let make (t : FileTree) : FileTree × Except FileError Unit :=
      match t.makeDirectory directory path with
      | .ok t => (t, .ok ())
      | .error e => (t, if t.namesDirectory directory path then .ok () else .error e)
    match t.makeDirectory directory path with
    | .error .notFound =>
      match t.makeDirectories directory parents with
      | (t, .ok ()) => make t
      | (t, .error e) => (t, .error e)
    | _ => make t

end FileTree
end TierRouting
