import TierRouting.Prompt.Section
import TierRouting.Tier

/-! The form of a system prompt that each tier is given. -/
namespace TierRouting
namespace Prompt

open Text

/-- A lone blank line stays as it is; `inRun` says that a longer run has begun. -/
def collapseFrom : Bool → List (List Char) → List (List Char)
  | _, [] => []
  | inRun, l :: r =>
    if allBlank l then
      if inRun then collapseFrom true r
      else if r.head?.any allBlank then [] :: collapseFrom true r
      else l :: collapseFrom true r
    else l :: collapseFrom false r

def collapseBlank (text : List Char) : List Char := unlines (collapseFrom false (lines text))

/-- Standing phrases that are of no use to a smaller model. -/
def boilerplate : List String :=
  ["Don't ask permission. Just do it.",
    "Don’t ask permission. Just do it.",
    "Be resourceful before asking.",
    "This file is yours to evolve. As you learn who you are, update it.",
    "If you change this file, tell the user."]

/-- Removes the phrases one after the other. -/
def dropBoilerplate (prompt : List Char) : List Char :=
  boilerplate.foldl (fun text phrase => erase phrase.toList text) prompt

/-- A longer prompt is reduced to the core persona. -/
def personaThreshold : Nat := 3200

def conciseSuffix : String :=
  "Keep replies concise: plain text only, no markdown, under 200 words."

def carefulPreamble : String :=
  "Think carefully before answering. Weigh the trade-offs, consider edge cases, and explain " ++
    "your reasoning where it matters."

/-- The prompt of a local model before the suffix. -/
def localBody (prompt : List Char) : List Char :=
  let text := collapseBlank (dropBoilerplate (dropOperational prompt))
  trimEnd (if personaThreshold < text.length then collapseBlank (corePersona text) else text)

def forLocal (prompt : List Char) : List Char :=
  let body := localBody prompt
  if body.isEmpty then conciseSuffix.toList else body ++ '\n' :: '\n' :: conciseSuffix.toList

def forFast (prompt : List Char) : List Char := collapseBlank (dropBoilerplate prompt)

end Prompt

structure AdaptedPrompt where
  systemPrompt : Option String
  /-- Text to put ahead of the user's message. -/
  userPreamble : Option String := none
  tier : Tier
  wasAdapted : Bool
deriving DecidableEq

def adapt (prompt : String) (tier : Tier) : AdaptedPrompt :=
  match tier with
  | .t0 => { systemPrompt := none, tier, wasAdapted := true }
  | .t1 =>
    { systemPrompt := some (String.ofList (Prompt.forLocal prompt.toList)), tier,
      wasAdapted := true }
  | .t2 =>
    let text := Prompt.forFast prompt.toList
    { systemPrompt := some (String.ofList text), tier, wasAdapted := text != prompt.toList }
  | .t3 => { systemPrompt := some prompt, tier, wasAdapted := false }
  | .t4 =>
    { systemPrompt := some prompt, userPreamble := some Prompt.carefulPreamble, tier,
      wasAdapted := true }

end TierRouting
