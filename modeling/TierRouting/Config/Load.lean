import TierRouting.Config.Extract
import TierRouting.Config.Validate
import TierRouting.Files.Tree
import TierRouting.Toml.Parser

/-! Loading settings from layers, of which a later one has the last word. -/
namespace TierRouting.Config

structure Layer where
  file : Option String := none
  content : Except Cause Entries

def Layer.fault? (l : Layer) : Option Fault :=
  match l.content with
  | .ok _ => none
  | .error cause => some { cause, file := l.file }

def Layer.entries (l : Layer) : Entries :=
  match l.content with
  | .ok es => es
  | .error _ => []

def merged (layers : List Layer) : Entries :=
  layers.foldl (fun es l => overlayEntries es l.entries) []

/-- The value at a path, where the items of an array are counted from zero. -/
def Value.at? : List String → Value → Option Value
  | [], v => some v
  | key :: path, .table es => (Entries.get? es key).bind (Value.at? path)
  | key :: path, .array items =>
    ((items.zipIdx.find? fun (_, i) => toString i == key).map (·.1)).bind (Value.at? path)
  | _, _ => none

/-- The file of the last layer that has a value at a path. -/
def originOf (layers : List Layer) (path : List String) : Option String :=
  (layers.reverse.find? fun l => (Value.at? path (.table l.entries)).isSome).bind (·.file)

/-- The settings of the layers together. Layers that cannot be read are all reported, the last
first; else at most one fault is. -/
def load (layers : List Layer) : Except (List Fault) Settings :=
  match layers.reverse.filterMap Layer.fault? with
  | [] =>
    match readSettings (merged layers) with
    | .ok s => .ok s
    | .error f => .error [{ f with file := originOf layers f.path }]
  | faults => .error faults

def textLayer (text : String) (file : Option String) : Layer where
  file := file
  content :=
    match Toml.parse? text with
    | some es => .ok es
    | none => .error .syntaxError

/-- Where settings are looked for: the files, the working directory, the variables and the account. -/
structure Surroundings where
  files : FileTree
  directory : Place
  env : Environment
  /-- The home directory on record for the account. -/
  account : Option String := none

def placePath (p : Place) : String := Path.ofComponents (.root :: p.map .name)

namespace Surroundings

/-- The file at a path in the directory whose place is given in reverse, or in one above it. -/
def searchUp? (s : Surroundings) (path : String) : List (List Char) → Option String
  | [] => if s.files.isFile [] path then some (Path.join "/" path) else none
  | name :: above =>
    let directory := (name :: above).reverse
    if s.files.isFile directory path then some (Path.join (placePath directory) path)
    else s.searchUp? path above

/-- The file that a path names. A relative one is looked for in every directory above as well. -/
def find? (s : Surroundings) (path : String) : Option String :=
  if Path.isAbsolute path then if s.files.isFile [] path then some path else none
  else s.searchUp? path s.directory.reverse

/-- The layer of a file; a missing file sets nothing. -/
def fileLayer (s : Surroundings) (path : String) : Layer :=
  match s.find? path with
  | none => { content := .ok [] }
  | some file =>
    match s.files.readText [] file with
    | .ok text => textLayer text (some file)
    | .error e => { file := some file, content := .error (.text (e.message ++ "\n")) }

def envLayer (s : Surroundings) : Layer where
  content := .ok s.env.entries

/-- The file with the settings of the user, where there is a directory for it. -/
def userPath? (s : Surroundings) : Option String :=
  (s.env.configDir? s.account).map (Path.join · "blufio/blufio.toml")

/-- The files with settings, the least important first. -/
def configPaths (s : Surroundings) : List String :=
  ["/etc/blufio/blufio.toml"] ++ s.userPath?.toList ++ ["blufio.toml"]

def loadFrom (s : Surroundings) (path : String) : Except (List Fault) Settings :=
  load [s.fileLayer path, s.envLayer]

def loadAll (s : Surroundings) : Except (List Fault) Settings :=
  load (s.configPaths.map s.fileLayer ++ [s.envLayer])

def workingDirectory (s : Surroundings) : String := placePath s.directory

/-- The texts of the files with settings under their full names, the most important first. -/
def sources (s : Surroundings) : List (String × String) :=
  s.configPaths.reverse.filterMap fun path =>
    match s.files.readText s.directory path with
    | .ok text => some (Path.join s.workingDirectory path, text)
    | .error _ => none

/-- Reports the faults with marks in the given sources. -/
def diagnose (s : Surroundings) (sources : List (String × String)) (faults : List Fault) :
    List ConfigError :=
  faults.map (·.diagnose s.workingDirectory sources)

def validated (loaded : Except (List ConfigError) Settings) :
    Except (List ConfigError) Settings := do
  let settings ← loaded
  validate settings
  return settings

/-- The settings of all files and variables, if they keep every rule. -/
def loadValid (s : Surroundings) : Except (List ConfigError) Settings :=
  validated (s.loadAll.mapError (s.diagnose s.sources))

end Surroundings

/-- The settings of one text. -/
def loadText (text : String) : Except (List ConfigError) Settings :=
  (load [textLayer text none]).mapError (·.map (·.diagnose "/" []))

def loadValidText (text : String) : Except (List ConfigError) Settings :=
  Surroundings.validated (loadText text)

end TierRouting.Config
