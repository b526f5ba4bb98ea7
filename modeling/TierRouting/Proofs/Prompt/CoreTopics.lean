import TierRouting.Proofs.Prompt.LocalText
import TierRouting.Proofs.Text.Runs

/-! The core topics as word lists, and the titles in which one of them stands in whole words. -/
namespace TierRouting.Prompt

open Text

variable {title before body after : List Char} {us ws : List (List Char)}

/-- The words of each core topic. -/
def topicWords : List (List (List Char)) :=
  [["core", "truths"], ["coach"], ["who", "you", "are"], ["role"], ["vibe"]].map
    (·.map String.toList)

/-- One of the topics stands in the word list, in a row. -/
def HasTopic (ws : List (List Char)) : Prop := ∃ topic ∈ topicWords, topic <:+: ws

theorem not_isBlank_of_isAlphanumeric (c : Char) (hc : isAlphanumeric c = true) :
    isBlank c = false := by
  have hall : ∀ n ∈ blankCodes, isAlphanumeric (.ofNat n) = false := by decide +kernel
  rw [Bool.eq_false_iff]
  intro hblank
  have hcode := hall c.toNat (toNat_mem_blankCodes hblank)
  rw [Char.ofNat_toNat, hc] at hcode
  cases hcode

/-- A title is normalized to its alphanumeric runs, each in lower case. -/
theorem normalizeTitle_eq (h : MaximalRuns isAlphanumeric title ws) :
    normalizeTitle title = joinWith ' ' (ws.map lowercase) := by
  rw [normalizeTitle, words_lowercase_map not_isBlank_of_isAlphanumeric h]

theorem space_not_mem_lowercase (h : MaximalRuns isAlphanumeric title ws) :
    ∀ w ∈ ws.map lowercase, ' ' ∉ w := by
  intro w hw hspace
  obtain ⟨v, hv, rfl⟩ := List.mem_map.mp hw
  obtain ⟨c, hc, hblank⟩ := isBlank_of_mem_lowercase hspace (by decide)
  have halnum := h.forall_mem hv c hc
  rw [not_isBlank_of_isAlphanumeric c halnum] at hblank
  contradiction

/-- A normalized title names a topic if the words that spaces part in it have the topic in a row. -/
theorem namesTopic_joinWith (h : ∀ w ∈ ws, ' ' ∉ w) :
    NamesTopic (joinWith ' ' ws) ↔ HasTopic ws := by
  have htopics : ∀ vs, (∃ topic ∈ coreTopics, splitAt ' ' topic.toList <:+: vs) ↔ HasTopic vs := by
    have hwords : topicWords = coreTopics.map fun topic => splitAt ' ' topic.toList := by decide
    intro vs
    simp only [HasTopic, hwords, List.mem_map, exists_exists_and_eq_and]
  rw [NamesTopic, htopics]
  cases ws with
  | nil =>
    -- The one piece of the empty title is no word.
    have hnone : ∀ topic ∈ topicWords, ¬ topic <:+: [[]] ∧ ¬ topic <:+: [] := by decide
    constructor
    · rintro ⟨topic, htopic, hinfix⟩
      exact absurd hinfix (hnone topic htopic).1
    · rintro ⟨topic, htopic, hinfix⟩
      exact absurd hinfix (hnone topic htopic).2
  | cons w ws => rw [splitAt_joinWith (List.cons_ne_nil w ws) h]

theorem isCoreTopic_normalizeTitle_iff (h : MaximalRuns isAlphanumeric title ws) :
    isCoreTopic (normalizeTitle title) = true ↔ HasTopic (ws.map lowercase) := by
  rw [isCoreTopic_iff, normalizeTitle_eq h, namesTopic_joinWith (space_not_mem_lowercase h)]

/-- The part `body` of the title is a topic, and no word of the title goes beyond an end of it. -/
structure IsTopicPart (before body after : List Char) : Prop where
  start : Parted isAlphanumeric before body
  stop : Parted isAlphanumeric body after
  topic : ∃ us, MaximalRuns isAlphanumeric body us ∧ us.map lowercase ∈ topicWords

theorem hasTopic_of_isTopicPart (h : MaximalRuns isAlphanumeric (before ++ body ++ after) ws)
    (hpart : IsTopicPart before body after) : HasTopic (ws.map lowercase) := by
  obtain ⟨us, hus, htopic⟩ := hpart.topic
  have hbody : body ≠ [] := by
    apply hus.ne_nil
    rintro rfl
    exact absurd htopic (by decide)
  have hstop : Parted isAlphanumeric (before ++ body) after :=
    (parted_append_iff hbody).mpr hpart.stop
  have hfront := (maximalRuns_runs isAlphanumeric before).append hus hpart.start
  have hwhole := hfront.append (maximalRuns_runs isAlphanumeric after) hstop
  rw [maximalRuns_iff.mp h, ← maximalRuns_iff.mp hwhole, List.map_append, List.map_append]
  exact ⟨us.map lowercase, htopic, List.infix_append _ _ _⟩

theorem exists_isTopicPart (h : MaximalRuns isAlphanumeric title ws)
    (htopic : HasTopic (ws.map lowercase)) :
    ∃ before body after, title = before ++ body ++ after ∧ IsTopicPart before body after := by
  obtain ⟨topic, hmem, xs, ys, hwords⟩ := htopic
  obtain ⟨zs, ys, rfl, hzs, -⟩ := List.map_eq_append_iff.mp hwords.symm
  obtain ⟨xs, us, rfl, -, rfl⟩ := List.map_eq_append_iff.mp hzs
  obtain ⟨front, after, rfl, hstop, hfront, -⟩ := h.exists_append
  obtain ⟨before, body, rfl, hstart, -, hbody⟩ := hfront.exists_append
  have hne : body ≠ [] := by
    apply hbody.ne_nil
    rintro rfl
    exact absurd hmem (by decide)
  exact ⟨before, body, after, rfl, hstart, (parted_append_iff hne).mp hstop, us, hbody, hmem⟩

/-- A title has one list of maximal alphanumeric runs, and names a core topic just when these, each
in lower case, have its words in a row: when a part of the title that ends inside no word, whatever
stands around it, has these words and no more. -/
theorem core_topic_iff_whole_words (title : List Char) :
    ∃ ws, (∀ vs, MaximalRuns isAlphanumeric title vs ↔ vs = ws) ∧
      (isCoreTopic (normalizeTitle title) = true ↔
        ∃ topic ∈ topicWords, topic <:+: ws.map lowercase) ∧
      (isCoreTopic (normalizeTitle title) = true ↔
        ∃ before body after, title = before ++ body ++ after ∧ IsTopicPart before body after) := by
  have hruns := maximalRuns_runs isAlphanumeric title
  refine ⟨runs isAlphanumeric title, fun _ => maximalRuns_iff,
    isCoreTopic_normalizeTitle_iff hruns, (isCoreTopic_normalizeTitle_iff hruns).trans ?_⟩
  constructor
  · exact exists_isTopicPart hruns
  · rintro ⟨before, body, after, rfl, hpart⟩
    exact hasTopic_of_isTopicPart hruns hpart

example : isCoreTopic (normalizeTitle "🧭  Who\u00a0you --- ARE?! (draft 2)".toList) = true := by
  decide +kernel

example : isCoreTopic (normalizeTitle "Coaching, roles & Bücher".toList) = false := by
  decide +kernel

end TierRouting.Prompt
