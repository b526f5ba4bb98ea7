import TierRouting.Prompt.Fence
import TierRouting.Text.Lines
import TierRouting.Text.Lowercase
import TierRouting.Text.CharClass

/-! The sections of a prompt, and which of them a small model is given. -/
namespace TierRouting.Prompt

open Text

/-- Letters and digits in lower case, with one space between the words. -/
def normalizeTitle (title : List Char) : List Char :=
  joinWith ' ' (words (lowercase (title.map fun c => if isAlphanumeric c then c else ' ')))

/-- Titles of sections about tools and upkeep. -/
def operationalTitles : List String :=
  ["tools", "memory", "workspace", "memory workspace", "memory and workspace", "heartbeats",
    "group chats", "reactions", "react like a human"]

/-- Words that mark a section as part of the persona. -/
def coreTopics : List String := ["core truths", "coach", "who you are", "role", "vibe"]

def isOperational (title : List Char) : Bool :=
  operationalTitles.any (·.toList == normalizeTitle title)

/-- A topic counts only as whole words of a normalized title. -/
def isCoreTopic (title : List Char) : Bool :=
  coreTopics.any fun topic => occursIn (' ' :: topic.toList ++ [' ']) (' ' :: title ++ [' '])

/-- The lines up to the first header and those under headers that are not operational. -/
def keptLines : Bool → List (Option (List Char) × Line) → List Line
  | _, [] => []
  | keeping, (title, l) :: r =>
    let keeping := (title.map fun t => !isOperational t).getD keeping
    if keeping then l :: keptLines keeping r else keptLines keeping r

def dropOperational (prompt : List Char) : List Char :=
  unlines (keptLines true (markHeaders none (lines prompt)))

structure Section where
  /-- The normalized title; the lines before the first header have none. -/
  title : Option (List Char)
  lines : List Line

def addToFirst (l : Line) : List Section → List Section
  | [] => []
  | s :: r => { s with lines := l :: s.lines } :: r

/-- The sections from one with the given title on. -/
def sectionsFrom (title : Option (List Char)) :
    List (Option (List Char) × Line) → List Section
  | [] => [⟨title, []⟩]
  | (none, l) :: r => addToFirst l (sectionsFrom title r)
  | (some t, l) :: r => ⟨title, []⟩ :: addToFirst l (sectionsFrom (some (normalizeTitle t)) r)

def sections (prompt : List Char) : List Section :=
  sectionsFrom none (markHeaders none (lines prompt))

def Section.isCore (s : Section) : Bool := s.title.any isCoreTopic

def Section.hasText (s : Section) : Bool := s.lines.any (!allBlank ·)

/-- Keeps the core sections and, unless one was found before, the first section with text. -/
def keepCore : Bool → List Section → List Section
  | _, [] => []
  | found, s :: r =>
    if !found && s.hasText || s.isCore then s :: keepCore (found || s.hasText) r
    else keepCore (found || s.hasText) r

def corePersona (prompt : List Char) : List Char :=
  unlines ((keepCore false (sections prompt)).flatMap (·.lines))

end TierRouting.Prompt
