import TierRouting.Signal.Phrases
import TierRouting.Signal.Stage
import TierRouting.Text.Lines

/-! The table of stages, in the order in which they are tried. -/
namespace TierRouting

/-- What a sum of weights may fall short of a threshold. -/
def scoreTolerance : Float32 := 1e-4

def flagshipWeight : Float32 := 0.4

def complexWeight : Float32 := 0.25

def complexThreshold : Float32 := 0.5

def judgeFlagship (score : Float32) : Option Verdict :=
  if 0 < score then
    let confidence := 0.6 + score
    some ⟨.flagship, if confidence < 0.95 then confidence else 0.95, "flagship-level request"⟩
  else none

def judgeComplex (score : Float32) : Option Verdict :=
  if complexThreshold ≤ score + scoreTolerance then
    let confidence := 0.5 + score * 0.4
    some ⟨.complex, if confidence < 0.9 then confidence else 0.9, "complex task indicators"⟩
  else none

/-- The emoji variation selector and the enclosing keycap. -/
def isKeycapMark (c : Char) : Bool := c == '\ufe0f' || c == '\u20e3'

def isKeycapBase (c : Char) : Bool := ('0' ≤ c && c ≤ '9') || c == '#' || c == '*'

/-- No letter or digit stands outside a keycap. -/
def onlySymbols : List Char → Bool
  | [] => true
  | c :: r =>
    (!Text.isAlphanumeric c || isKeycapBase c && r.head?.any isKeycapMark) && onlySymbols r

def isEmojiOnly (text : List Char) : Bool := onlySymbols text && text.any (127 < ·.toNat)

namespace Stage

def blankMessage : Stage where
  name := "empty"
  decision := .firstMatch ⟨.trivial, 1.0, "empty message"⟩
  rules := [⟨"empty", 1.0, .measure fun f _ => f.text.isEmpty⟩]

def explicitModel : Stage where
  name := "explicit_model"
  decision := .firstMatch ⟨.explicit, 1.0, "explicit model request"⟩
  rules := [
    ⟨"slash_model_command", 1.0, .phrase Phrases.slashModelCommand⟩,
    ⟨"slash_model_shortcut", 1.0, .phrase Phrases.slashModelShortcut⟩,
    ⟨"use_named_model", 1.0, .phrase Phrases.useNamedModel⟩]

def trivialPhrase : Stage where
  name := "trivial_pattern"
  decision := .firstMatch ⟨.trivial, 0.95, "greeting or acknowledgement"⟩
  rules := [
    ⟨"greeting", 1.0, .phrase Phrases.greeting⟩,
    ⟨"acknowledgement", 1.0, .phrase Phrases.acknowledgement⟩,
    ⟨"yes_no", 1.0, .phrase Phrases.yesNo⟩,
    ⟨"farewell", 1.0, .phrase Phrases.farewell⟩,
    ⟨"emoji_only", 1.0, .measure fun f _ => isEmojiOnly f.text⟩]

def shortMessage : Stage where
  name := "short_message"
  decision := .firstMatch ⟨.trivial, 0.8, "short message without a question"⟩
  rules := [
    ⟨"short_statement", 1.0, .measure fun f _ => f.text.length < 10 && f.questionMarks == 0⟩]

def flagship : Stage where
  name := "flagship"
  decision := .accumulate judgeFlagship
  rules := [
    ⟨"mock_interview", flagshipWeight, .phrase Phrases.mockInterview⟩,
    ⟨"full_system_design", flagshipWeight, .phrase Phrases.fullSystemDesign⟩,
    ⟨"design_from_scratch", flagshipWeight, .phrase Phrases.designFromScratch⟩,
    ⟨"architecture_review", flagshipWeight, .phrase Phrases.architectureReview⟩,
    ⟨"deep_dive", flagshipWeight, .phrase Phrases.deepDive⟩,
    ⟨"comprehensive_analysis", flagshipWeight, .phrase Phrases.comprehensiveAnalysis⟩,
    ⟨"explain_in_depth", flagshipWeight, .phrase Phrases.explainInDepth⟩,
    ⟨"paper_review", flagshipWeight, .phrase Phrases.paperReview⟩,
    ⟨"rfc", flagshipWeight, .phrase Phrases.rfc⟩]

def complex : Stage where
  name := "complex"
  decision := .accumulate judgeComplex
  scoresComplexity := true
  rules := [
    ⟨"system_design", complexWeight, .phrase Phrases.systemDesign⟩,
    ⟨"code_review", complexWeight, .phrase Phrases.codeReview⟩,
    ⟨"refactor", complexWeight, .phrase Phrases.refactor⟩,
    ⟨"debug", complexWeight, .phrase Phrases.debug⟩,
    ⟨"implement", complexWeight, .phrase Phrases.implement⟩,
    ⟨"optimize", complexWeight, .phrase Phrases.optimize⟩,
    ⟨"trade_offs", complexWeight, .phrase Phrases.tradeOffs⟩,
    ⟨"pros_cons", complexWeight, .phrase Phrases.prosCons⟩,
    ⟨"compare_contrast", complexWeight, .phrase Phrases.compareContrast⟩,
    ⟨"step_by_step", complexWeight, .phrase Phrases.stepByStep⟩,
    ⟨"explain_how_why", complexWeight, .phrase Phrases.explainHowWhy⟩,
    ⟨"what_would_happen", complexWeight, .phrase Phrases.whatWouldHappen⟩,
    ⟨"long_code_fence", complexWeight, .phrase Phrases.longCodeFence⟩,
    ⟨"technical_jargon", complexWeight, .phrase Phrases.technicalJargon⟩,
    ⟨"word_count_over_100", 0.3, .measure fun f _ => 100 < f.words⟩,
    ⟨"word_count_over_50", 0.15, .measure fun f _ => 50 < f.words && f.words ≤ 100⟩,
    ⟨"code_block", 0.3, .measure fun f _ => Text.occursIn "\x60\x60\x60".toList f.text⟩,
    ⟨"multiple_questions", 0.2, .measure fun f _ => 2 ≤ f.questionMarks⟩,
    ⟨"numbered_list", 0.15, .phrase Phrases.numberedList⟩]

def simplePhrase : Stage where
  name := "simple_pattern"
  decision := .firstMatch ⟨.simple, 0.8, "simple lookup pattern"⟩
  rules := [
    ⟨"what_is", 1.0, .phrase Phrases.whatIs⟩,
    ⟨"define", 1.0, .phrase Phrases.define⟩,
    ⟨"how_does_work", 1.0, .phrase Phrases.howDoesWork⟩,
    ⟨"time_date", 1.0, .phrase Phrases.timeDate⟩,
    ⟨"reminder", 1.0, .phrase Phrases.reminder⟩,
    ⟨"translate_convert", 1.0, .phrase Phrases.translateConvert⟩]

def shortAndPlain : Stage where
  name := "short_low_complexity"
  decision := .firstMatch ⟨.simple, 0.7, "short message without complexity signals"⟩
  rules := [
    ⟨"short_and_plain", 1.0,
      .measure fun f complexity => f.words ≤ 15 && complexity + scoreTolerance < complexWeight⟩]

def undecided : Stage where
  name := "default"
  decision := .firstMatch ⟨.standard, 0.6, "no decisive signals"⟩
  rules := [⟨"default", 1.0, .measure fun _ _ => true⟩]

def all : List Stage :=
  [blankMessage, explicitModel, trivialPhrase, shortMessage, flagship, complex, simplePhrase,
    shortAndPlain, undecided]

/-- The rules of the stage of a given name, with what each one looks at. -/
def ruleLabels (name : String) : List (String × String) :=
  match all.find? (·.name == name) with
  | some s => s.rules.map fun r => (r.name, r.test.label)
  | none => []

end Stage
end TierRouting
