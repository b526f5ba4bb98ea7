import TierRouting.Json.Reader
import TierRouting.Turn.Planner
import TierRouting.Proofs.Text.Splitting
import TierRouting.Proofs.Text.Erasing
import TierRouting.Proofs.Prompt.Headers
import TierRouting.Proofs.Prompt.BlankRuns
import TierRouting.Proofs.Prompt.LocalLines
import TierRouting.Proofs.Prompt.Boilerplate
import TierRouting.Proofs.Prompt.OperationalTitles
import TierRouting.Proofs.Prompt.LocalText
import TierRouting.Proofs.Signal.Confidence
import TierRouting.Proofs.Signal.Trace
import TierRouting.Proofs.Signal.Verdict
import TierRouting.Proofs.Signal.Appending
import TierRouting.Proofs.Routing.Clamping
import TierRouting.Proofs.Routing.Consistency
import TierRouting.Proofs.Routing.BudgetChange
import TierRouting.Proofs.Event.Lines
import TierRouting.Proofs.Turn.Session
import TierRouting.Proofs.Turn.Pinned
import TierRouting.Proofs.Config.Layers
import TierRouting.Proofs.Config.Accepted
import TierRouting.Proofs.Config.VariableNames
import TierRouting.Proofs.Config.StrayKeys
import TierRouting.Proofs.Config.KeyPlaces
import TierRouting.Proofs.Files.WorkingDirectory
import TierRouting.Proofs.Routing.EventKinds
import TierRouting.Proofs.Turn.Undisturbed
import TierRouting.Proofs.Config.StrayMarks
import TierRouting.Proofs.Routing.ModelReferences
import TierRouting.Proofs.Routing.DefaultModel
import TierRouting.Proofs.Turn.Endpoints
import TierRouting.Proofs.Prompt.WholeSections
import TierRouting.Proofs.Prompt.BlankPairs
import TierRouting.Proofs.Prompt.Cleaning
import TierRouting.Proofs.Signal.Symbols
import TierRouting.Proofs.Signal.EmojiTexts
import TierRouting.Proofs.Signal.CaseFolding
import TierRouting.Proofs.Routing.EventRecords
import TierRouting.Proofs.Routing.ModelChoice
import TierRouting.Proofs.Routing.RouteReports
import TierRouting.Proofs.Config.KeySections
import TierRouting.Proofs.Event.UnfinishedLines
import TierRouting.Proofs.Event.Handing
import TierRouting.Proofs.Event.Delivery
import TierRouting.Proofs.Event.Lifetimes
import TierRouting.Proofs.Config.Violations
import TierRouting.Proofs.Prompt.FencedBlocks
import TierRouting.Proofs.Prompt.ShrunkRuns
import TierRouting.Proofs.Prompt.CoreTopics
