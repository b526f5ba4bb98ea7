import TierRouting.Config.Diagnosis
import TierRouting.Config.Settings

/-! The rules that settings of the right types still have to keep. -/
namespace TierRouting.Config

def isAddress (url : List Char) : Bool :=
  "http://".toList.isPrefixOf url || "https://".toList.isPrefixOf url

def violationOfUrl? (entry : String × String) : Option Violation :=
  let url := Text.trim entry.2.toList
  if isAddress url then none else some (.notAnAddress entry.1 (String.ofList url))

def isAmount (cap : Float) : Bool := cap.isFinite && (0 : Float) ≤ cap

def violationOfCap? (key : String) (cap : Option Float) : Option Violation :=
  match cap with
  | some cap => if isAmount cap then none else some (.capNotAmount key cap)
  | none => none

/-- Every broken rule, in the order of the settings. -/
def violations (s : Settings) : List Violation :=
  (if isBlankText s.providers.defaultModel then [.defaultModelBlank] else []) ++
    s.providers.baseUrls.filterMap violationOfUrl? ++
    (violationOfCap? "daily_cap_usd" s.routing.budget.dailyCap).toList ++
    (violationOfCap? "monthly_cap_usd" s.routing.budget.monthlyCap).toList ++
    (if s.routing.analytics.path.any isBlankText then [.analyticsPathBlank] else [])

def validate (s : Settings) : Except (List ConfigError) Unit :=
  match violations s with
  | [] => .ok ()
  | vs => .error (vs.map .violation)

end TierRouting.Config
