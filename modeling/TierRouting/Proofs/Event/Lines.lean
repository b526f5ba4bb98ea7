import Mathlib.Data.List.Forall2
import TierRouting.Proofs.Event.Writing
import TierRouting.Proofs.Json.Reading
import TierRouting.Proofs.Routing.Prices
import TierRouting.Proofs.Text.Splitting

/-! Each event takes one line of its file, and the line is read back as the event. -/
namespace TierRouting

namespace Json

variable {α : Type} {key k : String} {a b : List (String × Json)} {v : Json}

def string? : Json → Option String
  | string s => some s
  | _ => none

def bool? : Json → Option Bool
  | bool b => some b
  | _ => none

/-- The value of the last of the members with a key. -/
def lastWith (key : String) (members : List (String × Json)) : Option Json :=
  (object members).get? key

@[simp] theorem get?_object : (object a).get? key = lastWith key a := rfl

@[simp] theorem lastWith_append : lastWith key (a ++ b) = (lastWith key b).or (lastWith key a) := by
  simp only [lastWith, get?, List.reverse_append, List.find?_append, Option.map_or]

@[simp] theorem lastWith_nil : lastWith key [] = none := rfl

@[simp] theorem lastWith_cons : lastWith key ((k, v) :: a) =
    (lastWith key a).or (if k = key then some v else none) := by
  rw [← List.singleton_append, lastWith_append]
  by_cases hk : k = key
  · simp [lastWith, get?, hk]
  · simp [lastWith, get?, hk]

@[simp] theorem lastWith_member {f : α → Json} {o : Option α} :
    lastWith key (Event.member k f o) = if k = key then o.map f else none := by
  cases o with
  | none => simp [Event.member, lastWith_nil]
  | some x => simp [Event.member, lastWith_cons, lastWith_nil]

theorem membersLegible_member {f : α → Json} {o : Option α} (hf : ∀ x, (f x).Legible) :
    MembersLegible (Event.member k f o) := by
  cases o with
  | none => trivial
  | some x => exact ⟨hf x, trivial⟩

theorem legible_optional {f : α → Json} {o : Option α} (hf : ∀ x, (f x).Legible) :
    (optional f o).Legible := by
  cases o with
  | none => trivial
  | some x => exact hf x

end Json

namespace Event

variable {e : Event} {v : Json}

/-- The value of a label, where it is one. -/
def labelled? {α : Type} (ofLabel? : String → Option α) (v : Json) : Option α :=
  v.string?.bind ofLabel?

/-- A value tells what an event does: each member that has to be there, and each other one if
there is something to tell. -/
structure ToldBy (e : Event) (v : Json) : Prop where
  time : (v.get? "ts").map Json.string? = some (some e.time)
  kind : (v.get? "event").map (labelled? EventKind.ofLabel?) = some (some e.kind)
  intent : (v.get? "intent").map (labelled? Intent.ofLabel?) = some (some e.intent)
  confidence : v.get? "confidence" = some (.float32 e.confidence)
  tier : (v.get? "tier").map (labelled? Tier.ofLabel?) = some (some e.tier)
  baseTier : (v.get? "originalTier").map (labelled? Tier.ofLabel?) = e.baseTier.map some
  provider : (v.get? "provider").map Json.string? = some (some e.model.provider)
  model : (v.get? "model").map Json.string? = some (some e.model.model)
  endpoint : (v.get? "endpoint").map Json.string? = e.endpoint.map some
  sessionId : (v.get? "sessionId").map Json.string? = e.sessionId.map some
  channel : (v.get? "channel").map Json.string? = e.channel.map some
  messageLength : (v.get? "messageLength").map Json.nat? = some (some e.messageLength)
  latencyMs : (v.get? "latencyMs").map Json.nat? = e.latencyMs.map some
  responseSize : (v.get? "responseSize").map Json.nat? = e.responseSize.map some
  cost : v.get? "estimatedCostUsd" = some (.optional .float e.cost)
  reason : (v.get? "classifierReason").map Json.string? = e.reason.map some
  promptAdapted : (v.get? "promptAdapted").map Json.bool? = some (some e.promptAdapted)

theorem legible_json (e : Event) : e.json.Legible := by
  have hstring (s : String) : (Json.string s).Legible := trivial
  have hlabel (t : Tier) : (Json.string t.label).Legible := trivial
  simp [json, Json.Legible, Json.membersLegible_append, Json.MembersLegible,
    Json.membersLegible_member hstring, Json.membersLegible_member hlabel,
    Json.membersLegible_member Json.legible_nat, Json.legible_nat, Json.legible_float32,
    Json.legible_optional Json.legible_float]

theorem labelled?_kind (k : EventKind) :
    labelled? EventKind.ofLabel? (.string k.label) = some k := by
  cases k <;> rfl

theorem labelled?_intent (i : Intent) : labelled? Intent.ofLabel? (.string i.label) = some i := by
  cases i <;> rfl

theorem labelled?_tier (t : Tier) : labelled? Tier.ofLabel? (.string t.label) = some t := by
  cases t <;> decide

theorem toldBy_json (e : Event) : e.ToldBy e.json where
  time := by simp [json, Json.string?]
  kind := by simp [json, labelled?_kind]
  intent := by simp [json, labelled?_intent]
  confidence := by simp [json]
  tier := by simp [json, labelled?_tier]
  baseTier := by simp [json, Function.comp_def, labelled?_tier]
  provider := by simp [json, Json.string?]
  model := by simp [json, Json.string?]
  endpoint := by simp [json, Function.comp_def, Json.string?]
  sessionId := by simp [json, Function.comp_def, Json.string?]
  channel := by simp [json, Function.comp_def, Json.string?]
  messageLength := by simp [json, Json.nat?_nat]
  latencyMs := by simp [json, Function.comp_def, Json.nat?_nat]
  responseSize := by simp [json, Function.comp_def, Json.nat?_nat]
  cost := by simp [json]
  reason := by simp [json, Function.comp_def, Json.string?]
  promptAdapted := by simp [json, Json.bool?]

/-- The price has a value exactly if there is one and it is finite. -/
theorem ToldBy.cost_null_iff (h : e.ToldBy v) :
    v.get? "estimatedCostUsd" = some .null ↔ ∀ x ∈ e.cost, x.isFinite = false := by
  rw [h.cost, Option.some.injEq]
  cases e.cost with
  | none => simp [Json.optional]
  | some x =>
    cases hx : x.isFinite with
    | false => simp [Json.optional, Json.float, hx]
    | true => simp [Json.optional, Json.float, hx]

/-- Events as they are made of decisions on messages whose length is a word. -/
inductive Made : Event → Prop
  | ofDecision (time : String) (kind : EventKind) (d : RoutingDecision) (endpoint : Option String)
      (hlength : d.context.messageLength < 2 ^ 64) : Made (.ofDecision time kind d endpoint)
  | withCompletion {e : Event} (latencyMs responseSize : Nat) (h : Made e) :
      Made (e.withCompletion latencyMs responseSize)
  | withModel {e : Event} (m : ModelRef) (endpoint : Option String) (h : Made e) :
      Made { e with model := m, endpoint := endpoint }

theorem Made.isFinite_cost (h : e.Made) : ∀ x ∈ e.cost, x.isFinite = true := by
  induction h with
  | ofDecision time kind d endpoint hlength =>
    intro x hx
    unfold Event.ofDecision at hx
    dsimp only at hx
    split at hx
    · contradiction
    · exact isFinite_of_inputCost? hlength hx
  | withCompletion latencyMs responseSize h ih => exact ih
  | withModel m endpoint h ih => exact ih

theorem ToldBy.cost_null_iff_of_made (h : e.ToldBy v) (hmade : e.Made) :
    v.get? "estimatedCostUsd" = some .null ↔ e.cost = none := by
  rw [h.cost_null_iff]
  have hfinite := hmade.isFinite_cost
  cases hcost : e.cost with
  | none => simp
  | some x => simp [hfinite x hcost]

end Event

namespace EventLog

variable {files : FileTree} {directory p : Place} {path : String}

theorem toList_textOf_cons (e : Event) (events : List Event) :
    (textOf (e :: events)).toList = e.json.chars ++ '\n' :: (textOf events).toList := by
  simp [textOf, Event.line, Json.text]

theorem splitAt_textOf (events : List Event) :
    Text.splitAt '\n' (textOf events).toList = events.map (·.json.chars) ++ [[]] := by
  induction events with
  | nil => rfl
  | cons e events ih =>
    rw [toList_textOf_cons, Text.splitAt_append (Json.newline_not_mem_chars e.legible_json), ih]
    rfl

/-- A line holds an event: it is read as a value that tells all of it. -/
def Holds (e : Event) (line : List Char) : Prop :=
  ∃ v, Json.read? (String.ofList line) = some v ∧ e.ToldBy v ∧
    (v.get? "estimatedCostUsd" = some .null ↔ ∀ x ∈ e.cost, x.isFinite = false) ∧
    (e.Made → (v.get? "estimatedCostUsd" = some .null ↔ e.cost = none))

theorem holds_chars (e : Event) : Holds e e.json.chars :=
  ⟨e.json, Json.read?_text e.legible_json, e.toldBy_json, e.toldBy_json.cost_null_iff,
    e.toldBy_json.cost_null_iff_of_made⟩

theorem forall₂_holds (events : List Event) :
    List.Forall₂ Holds events (events.map (·.json.chars)) := by
  rw [List.forall₂_map_right_iff, List.forall₂_same]
  exact fun e _ => holds_chars e

/-- What a log appends to its file has one line for each event, and each line holds its event. -/
theorem write_lines (h : Writable files directory path p) (events : List Event) :
    ∃ (u : FileTree) (text : String) (lines : List (List Char)),
      write files directory path none events = (u, []) ∧
      u.contentAt p = files.contentAt p ++ text.toUTF8 ∧
      Text.splitAt '\n' text.toList = lines ++ [[]] ∧ List.Forall₂ Holds events lines := by
  obtain ⟨u, hwrite, -, hadds⟩ := (Reaches.unopened h).write events
  exact ⟨u, textOf events, _, hwrite, hadds.content_self, splitAt_textOf events,
    forall₂_holds events⟩

/-- Names with quotes, backslashes and line ends in them. -/
def awkwardEvent : Event where
  time := "2026-01-01T00:00:00Z"
  kind := .complete
  intent := .simple
  confidence := 0.8
  tier := .t1
  model := ⟨"a\nb", "\"c\\"⟩
  sessionId := some "\r\n\x7f"
  messageLength := 3
  promptAdapted := false

theorem write_lines_awkward :
    Writable {} [] "events.jsonl" ["events.jsonl".toList] ∧
    ∃ (u : FileTree) (text : String) (lines : List (List Char)),
      write {} [] "events.jsonl" none [awkwardEvent, awkwardEvent] = (u, []) ∧
      u.contentAt ["events.jsonl".toList] = .empty ++ text.toUTF8 ∧
      Text.splitAt '\n' text.toList = lines ++ [[]] ∧
      List.Forall₂ Holds [awkwardEvent, awkwardEvent] lines := by
  have h : Writable {} [] "events.jsonl" ["events.jsonl".toList] := rfl
  exact ⟨h, write_lines h [awkwardEvent, awkwardEvent]⟩

/-- What is appended for events has one line for each, and that stands in a relation to it. -/
def HasLines (R : Event → List Char → Prop) (files : FileTree) (directory : Place) (path : String)
    (p : Place) (events : List Event) : Prop :=
  ∃ (text : String) (lines : List (List Char)),
    (write files directory path none events).1.contentAt p =
      files.contentAt p ++ text.toUTF8 ∧
    Text.splitAt '\n' text.toList = lines ++ [[]] ∧ List.Forall₂ R events lines

/-- The value of a line has no price exactly if the event has none. -/
def TellsPrice (e : Event) (line : List Char) : Prop :=
  ∃ v, Json.read? (String.ofList line) = some v ∧
    (v.get? "estimatedCostUsd" = some .null ↔ e.cost = none)

def oddlyPriced : Event := { awkwardEvent with cost := some (0.0 / 0.0) }

theorem not_tellsPrice_oddlyPriced : ¬ TellsPrice oddlyPriced oddlyPriced.json.chars := by
  rintro ⟨v, hread, hnull⟩
  obtain rfl : oddlyPriced.json = v :=
    Option.some.inj ((Json.read?_text oddlyPriced.legible_json).symm.trans hread)
  have hnan : ∀ x ∈ oddlyPriced.cost, x.isFinite = false := by
    rintro x ⟨⟩
    decide
  have hnone := hnull.mp (oddlyPriced.toldBy_json.cost_null_iff.mpr hnan)
  cases hnone

/-- A price that is no number is written like one that is not there, and a file that cannot be
opened gets no line. -/
theorem not_forall_hasLines :
    (¬ ∀ files directory path p events, Writable files directory path p →
      HasLines TellsPrice files directory path p events) ∧
    ¬ ∀ files directory path p events, HasLines Holds files directory path p events := by
  constructor
  · intro h
    have hwritable : Writable {} [] "events.jsonl" ["events.jsonl".toList] := rfl
    obtain ⟨text, lines, htext, hsplit, hlines⟩ := h _ _ _ _ [oddlyPriced] hwritable
    obtain ⟨u, hwrite, -, hadds⟩ := (Reaches.unopened hwritable).write [oddlyPriced]
    rw [hwrite, hadds.content_self, ByteArray.append_right_inj] at htext
    obtain rfl : textOf [oddlyPriced] = text := String.toByteArray_inj.mp htext
    rw [splitAt_textOf, List.append_cancel_right_eq] at hsplit
    rw [← hsplit] at hlines
    cases hlines with
    | cons hline _ => exact not_tellsPrice_oddlyPriced hline
  · intro h
    let taken : FileTree := ⟨[(["taken".toList], .file .empty)]⟩
    obtain ⟨text, lines, htext, hsplit, hlines⟩ :=
      h taken [] "taken/events.jsonl" ["taken".toList, "events.jsonl".toList] [awkwardEvent]
    have hsame : (write taken [] "taken/events.jsonl" none [awkwardEvent]).1 = taken := rfl
    rw [hsame] at htext
    obtain rfl : text = "" := by
      rw [← String.toByteArray_inj]
      exact (ByteArray.append_right_inj _).mp (htext.symm.trans ByteArray.append_empty.symm)
    cases hlines with
    | cons _ _ => simp [Text.splitAt] at hsplit

end EventLog
end TierRouting
