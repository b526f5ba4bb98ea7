import TierRouting.Text.Pattern

/-! The phrases by which a message in lower case shows what it asks for. -/
namespace TierRouting.Phrases

open Text Text.Pattern

def start : Pattern := edge .textStart

def finish : Pattern := edge .textEnd

def wordEdge : Pattern := edge .word

def notBlank (c : Char) : Bool := !isBlank c

def gap : Pattern := many1 isBlank

def isGapOrDash (c : Char) : Bool := isBlank c || c == '-'

def isGapOrComma (c : Char) : Bool := isBlank c || c == ','

def onLine (c : Char) : Bool := c != '\n'

/-- What may follow a greeting. -/
def isFlourish (c : Char) : Bool := isBlank c || c == '!' || c == '.' || c == ',' || c == '~'

/-- What may follow a request. -/
def isClosing (c : Char) : Bool := isBlank c || c == '!' || c == '.' || c == ',' || c == '?'

def isModelChar (c : Char) : Bool := isWordChar c || c == '.' || c == '-'

def isTaggedModelChar (c : Char) : Bool := isModelChar c || c == ':'

/-- The words of a phrase, with any gaps between them. -/
def spaced : List Pattern → Pattern
  | [] => empty
  | [a] => a
  | a :: r => a ++ gap ++ spaced r

/-- A phrase that is the whole message but for closing flourishes. -/
def alone (a : Pattern) : Pattern := start ++ a ++ many isFlourish ++ finish

def slashModelCommand : Pattern :=
  start ++ "/" ++ anyOf ["model", "models", "use", "switch"] ++ gap ++ many1 notBlank

def slashModelShortcut : Pattern :=
  start ++ "/" ++
    anyOf ["opus", "sonnet", "haiku", "gpt" ++ many isModelChar, "gemini", "llama", "qwen",
      "local"] ++ wordEdge

/-- Polite words ahead of a request. -/
def courtesy : Pattern :=
  star (anyOf ["please", "pls", "ok", "okay", "hey", "so", "now"] ++ many1 isGapOrComma)

def requestLead : Pattern :=
  anyOf [
    anyOf ["can", "could", "would", "will"] ++ gap ++ anyOf ["you", "we"] ++ gap ++
      optional ("please" ++ gap),
    "let" ++ optional "'" ++ "s" ++ gap,
    "i" ++ gap ++ "want" ++ gap ++ optional ("you" ++ gap) ++ "to" ++ gap,
    "i" ++ optional "'" ++ "d" ++ gap ++ "like" ++ gap ++ optional ("you" ++ gap) ++ "to" ++ gap]

def useVerb : Pattern :=
  anyOf ["use", spaced ["switch", "to"], spaced ["switch", "over", "to"], spaced ["change", "to"]]

def modelName : Pattern :=
  anyOf ["opus", "sonnet", "haiku", "claude" ++ many isModelChar,
    "gpt" ++ optional "-" ++ many isModelChar,
    "o" ++ anyOf ["1", "3", "4"] ++ optional "-mini",
    "gemini" ++ many isModelChar, "llama" ++ many isTaggedModelChar,
    "qwen" ++ many isTaggedModelChar, "mistral" ++ many isTaggedModelChar,
    "deepseek" ++ many isTaggedModelChar] ++ wordEdge

/-- How long the named model is wanted. -/
def requestScope : Pattern :=
  gap ++ anyOf ["instead", "now", "please", "again", spaced ["from", "now", "on"],
    spaced ["going", "forward"],
    "for" ++ gap ++
      anyOf ["this", "that", "now", "me", spaced ["the", "rest"], spaced ["the", "next"],
        "a" ++ gap ++ anyOf ["bit", "while"]] ++
      wordEdge ++ many (· != '?')]

/-- A request for a model that fills the whole message. -/
def useNamedModel : Pattern :=
  start ++ courtesy ++ optional requestLead ++ useVerb ++ gap ++ optional ("the" ++ gap) ++
    optional ("model" ++ gap) ++ modelName ++ optional (gap ++ "model") ++
    optional requestScope ++ many isClosing ++ finish

def greeting : Pattern :=
  alone (anyOf ["hi", "hello", "hey", "heya", "hiya", "yo", "sup", "howdy", "hola", "gm",
    "morning", "good" ++ gap ++ anyOf ["morning", "afternoon", "evening"]] ++
    optional (gap ++ "there"))

def acknowledgement : Pattern :=
  alone (anyOf ["ok", "okay", "k", "kk", "sure", "cool", "nice", "great", "awesome", "perfect",
    "noted", spaced ["got", "it"], spaced ["sounds", "good"], "thanks", spaced ["thank", "you"],
    spaced ["thanks", "a", "lot"], spaced ["thank", "you", "so", "much"], "thx", "ty", "cheers",
    "lol", "hah" ++ many1 (· == 'a'), "np", spaced ["no", "problem"], spaced ["no", "worries"]])

def yesNo : Pattern :=
  alone (anyOf ["yes", "no", "yep", "yup", "nope", "yeah", "yea", "nah", "y", "n",
    spaced ["of", "course"]])

def farewell : Pattern :=
  alone (anyOf ["bye", spaced ["bye", "bye"], "goodbye", spaced ["see", "ya"],
    spaced ["see", "you"], "later", "cya", spaced ["good", "night"], "gn", "night"])

def mockInterview : Pattern := wordEdge ++ "mock" ++ many1 isGapOrDash ++ "interview"

def fullSystemDesign : Pattern :=
  wordEdge ++ "full" ++ optional (many1 isGapOrDash ++ "blown") ++ gap ++
    spaced ["system", "design"]

def designFromScratch : Pattern :=
  wordEdge ++ anyOf ["design", "architect", "build"] ++ wordEdge ++ upTo 80 onLine ++
    wordEdge ++ spaced ["from", "scratch"] ++ wordEdge

def architectureReview : Pattern := wordEdge ++ spaced ["architecture", "review"]

def deepDive : Pattern := wordEdge ++ "deep" ++ upTo 1 isGapOrDash ++ "dive"

def comprehensiveAnalysis : Pattern :=
  wordEdge ++ "comprehensive" ++ gap ++ anyOf ["analysis", "review", "breakdown"]

def explainInDepth : Pattern :=
  wordEdge ++ "explain" ++ wordEdge ++ upTo 80 onLine ++ wordEdge ++ "in" ++ one isGapOrDash ++
    "depth" ++ wordEdge

def paperReview : Pattern :=
  anyOf [
    wordEdge ++ optional ("research" ++ gap) ++ spaced ["paper", "review"] ++ wordEdge,
    wordEdge ++ "review" ++ gap ++ anyOf ["this", "the", "a", "my"] ++ gap ++
      optional ("research" ++ gap) ++ "paper" ++ wordEdge]

def rfc : Pattern := wordEdge ++ "rfc" ++ optional "s" ++ wordEdge

def systemDesign : Pattern := wordEdge ++ spaced ["system", "design"] ++ wordEdge

def codeReview : Pattern := wordEdge ++ spaced ["code", "review"] ++ wordEdge

def refactor : Pattern := wordEdge ++ "refactor"

def debug : Pattern := wordEdge ++ "debug"

def implement : Pattern := wordEdge ++ "implement"

def optimize : Pattern := wordEdge ++ "optimi" ++ anyOf ["s", "z"]

def tradeOffs : Pattern :=
  wordEdge ++ "trade" ++ upTo 1 isGapOrDash ++ "off" ++ optional "s" ++ wordEdge

def prosCons : Pattern := wordEdge ++ spaced ["pros", anyOf ["and", "&"], "cons"] ++ wordEdge

def compareContrast : Pattern :=
  wordEdge ++ anyOf ["compare", "comparing", "comparison", "contrast"] ++ wordEdge

def stepByStep : Pattern :=
  wordEdge ++ "step" ++ one isGapOrDash ++ "by" ++ one isGapOrDash ++ "step" ++ wordEdge

def explainHowWhy : Pattern :=
  wordEdge ++ spaced ["explain", anyOf ["how", "why", "when"]] ++ wordEdge

def whatWouldHappen : Pattern := wordEdge ++ spaced ["what", "would", "happen", "if"] ++ wordEdge

def longCodeFence : Pattern := "\x60\x60\x60" ++ span (fun _ => true) 50 none ++ "\x60\x60\x60"

def technicalJargon : Pattern :=
  wordEdge ++
    anyOf [spaced ["gradient", "descent"], "backprop" ++ optional "agation",
      "transformer" ++ optional "s", spaced ["attention", "mechanism"],
      "embedding" ++ optional "s",
      "fine" ++ upTo 1 isGapOrDash ++ "tun" ++ anyOf ["e", "ing"],
      "overfitting", "regularization", "kubernetes", "k8s", "terraform",
      "microservice" ++ optional "s", spaced ["distributed", "system"] ++ optional "s",
      "load" ++ gap ++ "balanc" ++ anyOf ["er", "ing"], "sharding", "consensus", "throughput",
      spaced ["race", "condition"]] ++
    wordEdge

def numberedList : Pattern :=
  edge .lineStart ++ many isBlank ++ many1 isDigit ++ anyOf [".", ")"] ++ gap ++ one notBlank

def whatIs : Pattern :=
  start ++ anyOf ["what", "who"] ++
    anyOf [gap ++ "is", gap ++ "are", gap ++ "was", "'s", "’s"] ++ gap ++ one notBlank

def define : Pattern :=
  wordEdge ++ anyOf ["define", spaced ["definition", "of"], spaced ["meaning", "of"]] ++ wordEdge

def howDoesWork : Pattern :=
  wordEdge ++ spaced ["how", "does"] ++ wordEdge ++ upTo 60 onLine ++ wordEdge ++ "work" ++
    wordEdge

def timeDate : Pattern :=
  anyOf [
    wordEdge ++ spaced ["what", anyOf ["time", "day", "date"]] ++ wordEdge,
    wordEdge ++
      spaced [anyOf ["today" ++ optional "'" ++ "s", "current"], anyOf ["date", "time"]] ++
      wordEdge,
    wordEdge ++ "what" ++ optional "'" ++ "s" ++ gap ++ "the" ++ gap ++ anyOf ["time", "date"] ++
      wordEdge]

def reminder : Pattern :=
  anyOf [
    wordEdge ++ spaced ["remind", "me"] ++ wordEdge,
    wordEdge ++ spaced ["set", anyOf ["a", "an"], anyOf ["reminder", "alarm", "timer"]] ++ wordEdge]

def translateConvert : Pattern := wordEdge ++ anyOf ["translate", "convert"] ++ wordEdge

end TierRouting.Phrases
