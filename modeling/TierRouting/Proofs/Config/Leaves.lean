import Mathlib.Data.List.Infix
import TierRouting.Proofs.Config.Extraction
import TierRouting.Proofs.Config.Variables

/-! The single settings, each with its path, how it is read and where the settings keep it. -/
namespace TierRouting.Config

structure Leaf where
  Kind : Type
  /-- The path of the section. -/
  above : List String
  key : String
  read : Value → Extracted Kind
  get : Settings → Kind

def Leaf.path (l : Leaf) : List String := l.above ++ [l.key]

def scalars : List Leaf := [
  ⟨String, ["agent"], "name", readString, (·.agent.name)⟩,
  ⟨String, ["agent"], "log_level", readString, (·.agent.logLevel)⟩,
  ⟨Option String, ["agent"], "system_prompt", readOption readString, (·.agent.systemPrompt)⟩,
  ⟨Option String, ["agent"], "system_prompt_file", readOption readString,
    (·.agent.systemPromptFile)⟩,
  ⟨Option String, ["agent"], "state_dir", readOption readString, (·.agent.stateDir)⟩,
  ⟨String, ["providers"], "default_model", readString, (·.providers.defaultModel)⟩,
  ⟨Bool, ["routing"], "enabled", readBool, (·.routing.enabled)⟩,
  ⟨Bias, ["routing"], "bias", readBias, (·.routing.bias)⟩,
  ⟨Option String, ["routing", "tiers"], "t1", readOption readString, (·.routing.tiers.t1)⟩,
  ⟨Option String, ["routing", "tiers"], "t2", readOption readString, (·.routing.tiers.t2)⟩,
  ⟨Option String, ["routing", "tiers"], "t3", readOption readString, (·.routing.tiers.t3)⟩,
  ⟨Option String, ["routing", "tiers"], "t4", readOption readString, (·.routing.tiers.t4)⟩,
  ⟨Option Float, ["routing", "budget"], "daily_cap_usd", readOption readFloat,
    (·.routing.budget.dailyCap)⟩,
  ⟨Option Float, ["routing", "budget"], "monthly_cap_usd", readOption readFloat,
    (·.routing.budget.monthlyCap)⟩,
  ⟨Bool, ["routing", "budget"], "prefer_free", readBool, (·.routing.budget.preferFree)⟩,
  ⟨Bool, ["routing", "analytics"], "enabled", readBool, (·.routing.analytics.enabled)⟩,
  ⟨Option String, ["routing", "analytics"], "path", readOption readString,
    (·.routing.analytics.path)⟩]

/-- The address of one provider. -/
def baseUrl (provider : String) : Leaf where
  Kind := Option String
  above := ["providers", "base_urls"]
  key := provider
  read := readOption readString
  get s := textUnder provider s.providers.baseUrls

def IsLeaf (l : Leaf) : Prop := l ∈ scalars ∨ ∃ provider, l = baseUrl provider

def IsLeafPath (path : List String) : Prop := ∃ l, IsLeaf l ∧ l.path = path

/-- The tables in which leaves stand. -/
def sectionPaths : List (List String) :=
  [["agent"], ["providers"], ["providers", "base_urls"], ["routing"], ["routing", "tiers"],
    ["routing", "budget"], ["routing", "analytics"]]

/-- Leaves are read from their paths, and never from tables. -/
structure Leaf.Sound (l : Leaf) : Prop where
  extracts : Extracts (readSection "BlufioConfig" settingsFields) l.path l.read l.get (l.get {})
  rejects : RejectsTables l.read

section Sections

variable {α τ : Type} [Inhabited τ] {above below key name : String} {read : Value → Extracted α}
  {fields : List (Field τ)} {get : τ → α}

theorem sound_of_section {part : Settings → τ}
    (hpart : Tracks settingsFields above (readSection name fields) part)
    (hdefault : part {} = default) (hkey : Tracks fields key read get)
    (hread : RejectsTables read) :
    Leaf.Sound ⟨α, [above], key, read, fun s => get (part s)⟩ := by
  have hd : get (part {}) = get default := congrArg get hdefault
  have houter : Extracts (readSection "BlufioConfig" settingsFields) [above, key] read
      (get ∘ part) (get (part {})) := by
    rw [hd]
    exact .section hpart hkey.extracts hd
  exact ⟨houter, hread⟩

theorem tracks_agent :
    Tracks settingsFields "agent" (readSection "AgentConfig" agentFields) (·.agent) :=
  tracks_of_fields (by simp [settingsFields])

theorem tracks_providers :
    Tracks settingsFields "providers" (readSection "ProvidersConfig" providerFields)
      (·.providers) :=
  tracks_of_fields (by simp [settingsFields])

theorem tracks_routing :
    Tracks settingsFields "routing" (readSection "RoutingConfig" routingFields) (·.routing) :=
  tracks_of_fields (by simp [settingsFields])

/-- The leaves of a section inside the one for routing. -/
theorem sound_of_routing_section {part : RoutingSettings → τ}
    (hpart : Tracks routingFields below (readSection name fields) part)
    (hdefault : part {} = default) (hkey : Tracks fields key read get)
    (hread : RejectsTables read) :
    Leaf.Sound ⟨α, ["routing", below], key, read, fun s => get (part s.routing)⟩ := by
  have hd : get (part {}) = get default := congrArg get hdefault
  have hrouting : Extracts (readSection "RoutingConfig" routingFields) [below, key] read
      (get ∘ part) (get (part {})) := by
    rw [hd]
    exact .section hpart hkey.extracts hd
  have houter : Extracts (readSection "BlufioConfig" settingsFields) ["routing", below, key] read
      ((get ∘ part) ∘ Settings.routing) (get (part {})) := .section tracks_routing hrouting rfl
  exact ⟨houter, hread⟩

end Sections

theorem tracks_baseUrls : Tracks providerFields "base_urls" readStrings (·.baseUrls) :=
  tracks_of_fields (by simp [providerFields])

theorem sound_baseUrl (provider : String) : (baseUrl provider).Sound := by
  have hproviders : Extracts (readSection "ProvidersConfig" providerFields)
      ["base_urls", provider] (readOption readString) (textUnder provider ∘ (·.baseUrls)) none :=
    .section tracks_baseUrls (extracts_readStrings provider) rfl
  have houter : Extracts (readSection "BlufioConfig" settingsFields)
      ["providers", "base_urls", provider] (readOption readString)
      ((textUnder provider ∘ (·.baseUrls)) ∘ Settings.providers) none :=
    .section tracks_providers hproviders rfl
  exact ⟨houter, rejectsTables_readString.readOption⟩

theorem tracks_tiers :
    Tracks routingFields "tiers" (readSection "TierModelsConfig" tierFields) (·.tiers) :=
  tracks_of_fields (by simp [routingFields])

theorem tracks_budget :
    Tracks routingFields "budget" (readSection "RoutingBudgetConfig" budgetFields) (·.budget) :=
  tracks_of_fields (by simp [routingFields])

theorem tracks_analytics :
    Tracks routingFields "analytics" (readSection "AnalyticsConfig" analyticsFields)
      (·.analytics) :=
  tracks_of_fields (by simp [routingFields])

theorem sound_scalars : ∀ l ∈ scalars, l.Sound := by
  have text := rejectsTables_readString
  have number := rejectsTables_readFloat
  have flag := rejectsTables_readBool
  rw [← List.forall_iff_forall_mem]
  exact ⟨
    sound_of_section tracks_agent rfl (tracks_of_fields (by simp [agentFields])) text,
    sound_of_section tracks_agent rfl (tracks_of_fields (by simp [agentFields])) text,
    sound_of_section tracks_agent rfl (tracks_of_fields (by simp [agentFields])) text.readOption,
    sound_of_section tracks_agent rfl (tracks_of_fields (by simp [agentFields])) text.readOption,
    sound_of_section tracks_agent rfl (tracks_of_fields (by simp [agentFields])) text.readOption,
    sound_of_section tracks_providers rfl (tracks_of_fields (by simp [providerFields])) text,
    sound_of_section tracks_routing rfl (tracks_of_fields (by simp [routingFields])) flag,
    sound_of_section tracks_routing rfl (tracks_of_fields (by simp [routingFields]))
      rejectsTables_readBias,
    sound_of_routing_section tracks_tiers rfl (tracks_of_fields (by simp [tierFields]))
      text.readOption,
    sound_of_routing_section tracks_tiers rfl (tracks_of_fields (by simp [tierFields]))
      text.readOption,
    sound_of_routing_section tracks_tiers rfl (tracks_of_fields (by simp [tierFields]))
      text.readOption,
    sound_of_routing_section tracks_tiers rfl (tracks_of_fields (by simp [tierFields]))
      text.readOption,
    sound_of_routing_section tracks_budget rfl (tracks_of_fields (by simp [budgetFields]))
      number.readOption,
    sound_of_routing_section tracks_budget rfl (tracks_of_fields (by simp [budgetFields]))
      number.readOption,
    sound_of_routing_section tracks_budget rfl (tracks_of_fields (by simp [budgetFields])) flag,
    sound_of_routing_section tracks_analytics rfl (tracks_of_fields (by simp [analyticsFields]))
      flag,
    sound_of_routing_section tracks_analytics rfl (tracks_of_fields (by simp [analyticsFields]))
      text.readOption⟩

theorem IsLeaf.sound {l : Leaf} (h : IsLeaf l) : l.Sound := by
  rcases h with h | ⟨provider, rfl⟩
  · exact sound_scalars l h
  · exact sound_baseUrl provider

theorem IsLeaf.above_mem {l : Leaf} (h : IsLeaf l) : l.above ∈ sectionPaths := by
  have hscalars : ∀ path ∈ scalars.map (·.above), path ∈ sectionPaths := by decide
  rcases h with h | ⟨provider, rfl⟩
  · exact hscalars _ (List.mem_map_of_mem h)
  · exact .tail _ (.tail _ (.head _))

theorem IsLeaf.path_not_mem {l : Leaf} (h : IsLeaf l) : l.path ∉ sectionPaths := by
  have hscalars : ∀ path ∈ scalars.map Leaf.path, path ∉ sectionPaths := by decide
  rcases h with h | ⟨provider, rfl⟩
  · exact hscalars _ (List.mem_map_of_mem h)
  · simp [Leaf.path, baseUrl, sectionPaths]

/-- On the way to a leaf there are sections. -/
theorem IsLeaf.prefix_cases {l : Leaf} (h : IsLeaf l) {path : List String}
    (hpath : path <+: l.path) : path = l.path ∨ path = [] ∨ path ∈ sectionPaths := by
  have hsections : ∀ q ∈ sectionPaths, ∀ p ∈ q.inits, p = [] ∨ p ∈ sectionPaths := by decide
  rcases List.prefix_concat_iff.mp hpath with heq | hprefix
  · exact .inl heq
  · exact .inr (hsections l.above h.above_mem path ((List.mem_inits _ _).mpr hprefix))

theorem Leaf.path_ne_nil (l : Leaf) : l.path ≠ [] := List.concat_ne_nil l.key l.above

theorem prefixFree_isLeafPath : PrefixFree IsLeafPath where
  ne_nil := by
    rintro _ ⟨l, -, rfl⟩
    exact l.path_ne_nil
  eq := by
    rintro _ _ ⟨l, hl, rfl⟩ ⟨l', hl', rfl⟩ hprefix
    rcases hl'.prefix_cases hprefix with heq | hnil | hsection
    · exact heq
    · exact absurd hnil l.path_ne_nil
    · exact absurd hsection hl.path_not_mem

end TierRouting.Config
