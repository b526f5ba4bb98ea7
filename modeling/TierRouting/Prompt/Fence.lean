import TierRouting.Text.CharClass
import TierRouting.Text.Lines

/-! Headers of a prompt, which do not count inside fenced code blocks. -/
namespace TierRouting.Prompt

open Text

abbrev Line := List Char

def backtick : Char := '\x60'

/-- An open code block: the character of its fence and how often it stands there. -/
structure Fence where
  mark : Char
  width : Nat
deriving DecidableEq

/-- A run of three or more backticks or tildes that starts a line, and what follows the run. -/
def marker? (l : Line) : Option (Fence × Line) :=
  match trimStart l with
  | [] => none
  | c :: r =>
    let run := (c :: r).takeWhile (· == c)
    if (c = backtick ∨ c = '~') ∧ 3 ≤ run.length then
      some (⟨c, run.length⟩, (c :: r).dropWhile (· == c))
    else none

/-- What may follow the run that opens a block: with backticks `info` has none of its own. -/
def Fence.admits (f : Fence) (info : Line) : Bool :=
  if f.mark = backtick then !info.contains backtick else !occursIn "~~~".toList info

/-- The block that a line opens. -/
def opened? (l : Line) : Option Fence :=
  match marker? l with
  | some (f, info) => if f.admits info then some f else none
  | none => none

/-- A bare run of the same character, at least as wide, ends a block. -/
def Fence.isClosedBy (f : Fence) (l : Line) : Bool :=
  match marker? l with
  | some (g, rest) => g.mark == f.mark && f.width ≤ g.width && allBlank rest
  | none => false

/-- The text behind one to six hashes and a blank, or behind nothing. -/
def title? (l : Line) : Option (List Char) :=
  let l := trimStart l
  let hashes := (l.takeWhile (· == '#')).length
  if hashes = 0 ∨ 6 < hashes then none
  else
    match l.drop hashes with
    | [] => some []
    | c :: r => if c = ' ' ∨ c = '\t' then some (trim (c :: r)) else none

/-- The state after a line, and the title if the line is a header. -/
def step : Option Fence → Line → Option Fence × Option (List Char)
  | some f, l => (if f.isClosedBy l then none else some f, none)
  | none, l =>
    match opened? l with
    | some f => (some f, none)
    | none => (none, title? l)

/-- The lines, each with its title if it is a header. -/
def markHeaders : Option Fence → List Line → List (Option (List Char) × Line)
  | _, [] => []
  | state, l :: r => ((step state l).2, l) :: markHeaders (step state l).1 r

end TierRouting.Prompt
