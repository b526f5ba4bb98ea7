import TierRouting.Proofs.Signal.Markers
import TierRouting.Proofs.Text.AsciiLetters

/-! The rules for explicit requests and for small talk match no text without an ASCII letter. -/
namespace TierRouting.Phrases

open Text Text.Pattern

variable {f : Features} {k : Float32} {r : Rule} {a b : Pattern}

/-- The rule seeks a phrase with a letter. -/
def SeeksLetter (r : Rule) : Prop := ∃ a, r.test = .phrase a ∧ a.Forces HasLetter

theorem SeeksLetter.isMatch_eq_false (h : SeeksLetter r) (hf : ¬ HasLetter f.lower) :
    (r.signal f k).isMatch = false := by
  obtain ⟨a, htest, ha⟩ := h
  simp only [Rule.signal, htest]
  by_contra hmatch
  exact hf (ha.of_occursIn (fun _ _ => HasLetter.mono) (by simpa using hmatch))

theorem unmatched_of_seeksLetter {rules : List Rule} (h : ∀ r ∈ rules, SeeksLetter r)
    (hf : ¬ HasLetter f.lower) : ∀ x ∈ rules.map (·.signal f k), x.isMatch = false := by
  intro x hx
  obtain ⟨r, hr, rfl⟩ := List.mem_map.mp hx
  exact (h r hr).isMatch_eq_false hf

theorem letter_left (h : a.Forces HasLetter) (b : Pattern) :
    (a ++ b).Forces HasLetter := h.left (fun _ _ => HasLetter.mono) b

theorem letter_right (h : b.Forces HasLetter) (a : Pattern) :
    (a ++ b).Forces HasLetter := h.right (fun _ _ => HasLetter.mono) a

/-- One word with a letter is enough for a phrase. -/
theorem letter_phrases {wss : List (List String)} (h : ∀ ws ∈ wss, ∃ s ∈ ws, HasLetter s.toList) :
    ∀ a ∈ wss.map phrase, a.Forces HasLetter := by
  intro a ha
  obtain ⟨ws, hws, rfl⟩ := List.mem_map.mp ha
  obtain ⟨s, hs, hletter⟩ := h ws hws
  have hmem : chars s.toList ∈ ws.map fun s => chars s.toList := List.mem_map_of_mem hs
  exact forces_spaced (fun _ _ => HasLetter.mono) hmem (forces_chars hletter)

theorem letter_alone (h : a.Forces HasLetter) : (alone a).Forces HasLetter :=
  letter_left (letter_left (letter_right h start) (many isFlourish)) finish

theorem seeksLetter_explicitModel : ∀ r ∈ Stage.explicitModel.rules, SeeksLetter r := by
  have hcommands : ∀ a ∈ [["model"], ["models"], ["use"], ["switch"]].map phrase,
      a.Forces HasLetter := letter_phrases (by decide)
  have hverbs : ∀ a ∈ [["use"], ["switch", "to"], ["switch", "over", "to"],
      ["change", "to"]].map phrase, a.Forces HasLetter := letter_phrases (by decide)
  have hbefore : ∀ a ∈ [["opus"], ["sonnet"], ["haiku"]].map phrase, a.Forces HasLetter :=
    letter_phrases (by decide)
  have hgpt : ("gpt" : Pattern).Forces HasLetter := forces_chars (by decide)
  have hbehind : ∀ a ∈ [["gemini"], ["llama"], ["qwen"], ["local"]].map phrase,
      a.Forces HasLetter := letter_phrases (by decide)
  have hshortcuts := List.forall_mem_append.mpr
    ⟨hbefore, List.forall_mem_cons.mpr ⟨letter_left hgpt (many isModelChar), hbehind⟩⟩
  rw [← List.forall_iff_forall_mem]
  refine ⟨⟨_, rfl, ?_⟩, ⟨_, rfl, ?_⟩, ⟨_, rfl, ?_⟩⟩
  · exact letter_left (letter_left (letter_right (forces_anyOf hcommands) _) _) _
  · exact letter_left (letter_right (forces_anyOf hshortcuts) _) _
  · -- Whatever leads up to the verb and follows it.
    iterate 8 apply letter_left
    exact letter_right (forces_anyOf hverbs) _

theorem seeksLetter_smallTalk : ∀ r ∈ Stage.trivialPhrase.rules.take 4, SeeksLetter r := by
  have hgreetings : ∀ a ∈ [["hi"], ["hello"], ["hey"], ["heya"], ["hiya"], ["yo"], ["sup"],
      ["howdy"], ["hola"], ["gm"], ["morning"]].map phrase, a.Forces HasLetter :=
    letter_phrases (by decide)
  have hgood : ("good" : Pattern).Forces HasLetter := forces_chars (by decide)
  have hgreeting := List.forall_mem_append.mpr ⟨hgreetings,
    List.forall_mem_singleton.mpr (letter_left (letter_left hgood gap)
      (anyOf ["morning", "afternoon", "evening"]))⟩
  have hbefore : ∀ a ∈ [["ok"], ["okay"], ["k"], ["kk"], ["sure"], ["cool"], ["nice"], ["great"],
      ["awesome"], ["perfect"], ["noted"], ["got", "it"], ["sounds", "good"], ["thanks"],
      ["thank", "you"], ["thanks", "a", "lot"], ["thank", "you", "so", "much"], ["thx"], ["ty"],
      ["cheers"], ["lol"]].map phrase, a.Forces HasLetter := letter_phrases (by decide)
  have hlaughter : ("hah" : Pattern).Forces HasLetter := forces_chars (by decide)
  have hbehind : ∀ a ∈ [["np"], ["no", "problem"], ["no", "worries"]].map phrase,
      a.Forces HasLetter := letter_phrases (by decide)
  have hacknowledgement := List.forall_mem_append.mpr
    ⟨hbefore, List.forall_mem_cons.mpr ⟨letter_left hlaughter (many1 (· == 'a')), hbehind⟩⟩
  have hyesNo : ∀ a ∈ [["yes"], ["no"], ["yep"], ["yup"], ["nope"], ["yeah"], ["yea"], ["nah"],
      ["y"], ["n"], ["of", "course"]].map phrase, a.Forces HasLetter :=
    letter_phrases (by decide)
  have hfarewell : ∀ a ∈ [["bye"], ["bye", "bye"], ["goodbye"], ["see", "ya"], ["see", "you"],
      ["later"], ["cya"], ["good", "night"], ["gn"], ["night"]].map phrase,
      a.Forces HasLetter := letter_phrases (by decide)
  rw [← List.forall_iff_forall_mem]
  exact ⟨⟨_, rfl, letter_alone (letter_left (forces_anyOf hgreeting) _)⟩,
    ⟨_, rfl, letter_alone (forces_anyOf hacknowledgement)⟩,
    ⟨_, rfl, letter_alone (forces_anyOf hyesNo)⟩,
    ⟨_, rfl, letter_alone (forces_anyOf hfarewell)⟩⟩

end TierRouting.Phrases
