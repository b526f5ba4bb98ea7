import TierRouting.Proofs.Config.Layers
import TierRouting.Proofs.Config.Schema

/-! The texts that are accepted as settings, and what each single setting is then. -/
namespace TierRouting.Config

variable {v w : Value} {es : Entries} {path : List String} {l : Leaf} {text : String}
  {s : Settings}

/-- Which values in a document stand for a value of a setting. -/
class Spelled (α : Type) where
  Spells : Value → α → Prop

instance : Spelled String := ⟨fun v s => v = .string s⟩

instance : Spelled Bool := ⟨fun v b => v = .bool b⟩

instance : Spelled Bias := ⟨fun v b => v = .string b.label⟩

instance : Spelled Float := ⟨fun v x => v = .float x ∨ ∃ n : Int, v = .signed n ∧ x = Float.ofInt n⟩

instance {α : Type} [Spelled α] : Spelled (Option α) :=
  ⟨fun v o => ∃ a, o = some a ∧ Spelled.Spells v a⟩

/-- A setting is what stands at its path, and its default if nothing does. -/
def GivenAt {α : Type} [Spelled α] (es : Entries) (path : List String) (a default : α) : Prop :=
  match Value.at? path (.table es) with
  | some v => Spelled.Spells v a
  | none => a = default

/-- Every single setting is given by a document. -/
structure Settings.GivenBy (s : Settings) (es : Entries) : Prop where
  name : GivenAt es ["agent", "name"] s.agent.name "blufio"
  logLevel : GivenAt es ["agent", "log_level"] s.agent.logLevel "info"
  systemPrompt : GivenAt es ["agent", "system_prompt"] s.agent.systemPrompt none
  systemPromptFile : GivenAt es ["agent", "system_prompt_file"] s.agent.systemPromptFile none
  stateDir : GivenAt es ["agent", "state_dir"] s.agent.stateDir none
  defaultModel :
    GivenAt es ["providers", "default_model"] s.providers.defaultModel "anthropic/claude-sonnet-4-5"
  baseUrl (provider : String) : GivenAt es ["providers", "base_urls", provider]
    (textUnder provider s.providers.baseUrls) none
  enabled : GivenAt es ["routing", "enabled"] s.routing.enabled false
  bias : GivenAt es ["routing", "bias"] s.routing.bias .balanced
  t1 : GivenAt es ["routing", "tiers", "t1"] s.routing.tiers.t1 none
  t2 : GivenAt es ["routing", "tiers", "t2"] s.routing.tiers.t2 none
  t3 : GivenAt es ["routing", "tiers", "t3"] s.routing.tiers.t3 none
  t4 : GivenAt es ["routing", "tiers", "t4"] s.routing.tiers.t4 none
  dailyCap : GivenAt es ["routing", "budget", "daily_cap_usd"] s.routing.budget.dailyCap none
  monthlyCap : GivenAt es ["routing", "budget", "monthly_cap_usd"] s.routing.budget.monthlyCap none
  preferFree : GivenAt es ["routing", "budget", "prefer_free"] s.routing.budget.preferFree false
  analytics : GivenAt es ["routing", "analytics", "enabled"] s.routing.analytics.enabled true
  analyticsPath : GivenAt es ["routing", "analytics", "path"] s.routing.analytics.path none

/-- What is read from a value of a document is what the value stands for. -/
def ReadsSpelled {α : Type} [Spelled α] (read : Value → Extracted α) : Prop :=
  ∀ v a, v.Written → read v = .ok a → Spelled.Spells v a

theorem readsSpelled_string : ReadsSpelled readString := by
  intro v a hv h
  cases v with
  | string t => exact congrArg Value.string (Except.ok.inj h)
  | char c => simp [Value.Written] at hv
  | _ => contradiction

theorem readsSpelled_bool : ReadsSpelled readBool := by
  intro v a _ h
  cases v with
  | bool b => exact congrArg Value.bool (Except.ok.inj h)
  | _ => contradiction

theorem readsSpelled_float : ReadsSpelled readFloat := by
  intro v a hv h
  cases v with
  | signed n => exact .inr ⟨n, rfl, (Except.ok.inj h).symm⟩
  | float x => exact .inl (congrArg Value.float (Except.ok.inj h))
  | unsigned n => simp [Value.Written] at hv
  | _ => contradiction

theorem readsSpelled_bias : ReadsSpelled readBias := by
  intro v a _ h
  cases v with
  | string t => exact congrArg Value.string (biasNamed_eq_ok.mp h).symm
  | table es => exact (rejectsTables_readBias _ a h trivial).elim
  | _ => contradiction

theorem ReadsSpelled.option {α : Type} [Spelled α] {read : Value → Extracted α}
    (h : ReadsSpelled read) : ReadsSpelled (readOption read) := by
  intro v _ hv hread
  obtain ⟨a, ha, rfl⟩ := map_eq_ok.mp hread
  exact ⟨a, rfl, h v a hv ha⟩

theorem Value.Written.at? (hv : v.Written) (hleads : Leads path v) (hat : v.at? path = some w) :
    w.Written := by
  induction path generalizing v with
  | nil =>
    cases hat
    exact hv
  | cons key path ih =>
    obtain ⟨es, rfl, -, hbelow⟩ := hleads
    have hes : EntriesWritten es := hv
    rw [at?_cons_table] at hat
    obtain ⟨u, hu, hat⟩ := Option.bind_eq_some_iff.mp hat
    exact ih ((entriesWritten_iff.mp hes).2 _ (Entries.mem_of_get? hu)) (hbelow u hu) hat

/-- The addresses are the only section that is not a record, and they are admitted as a table. -/
theorem holdsSections_of_admits (htables : TablesAt recordPaths (.table es))
    (hadmits : schema.Admits (.table es)) : HoldsSections es := by
  intro path hpath u hu
  by_cases hrecord : path ∈ recordPaths
  · exact htables path hrecord u hu
  · obtain rfl : path = ["providers", "base_urls"] := by
      simp only [sectionPaths, List.mem_cons, List.not_mem_nil, or_false] at hpath
      simp only [recordPaths, List.mem_cons, List.not_mem_nil, or_false] at hrecord
      tauto
    rw [at?_cons_table] at hu
    obtain ⟨p, hp, hu⟩ := Option.bind_eq_some_iff.mp hu
    have hproviders : (Kind.record providerKinds).Admits p :=
      (admits_record_iff.mp hadmits _ (Entries.mem_of_get? hp)).2 _ (by simp [settingsKinds])
    cases hproviders with
    | record hdeclared hbelow =>
      rw [at?_cons_table] at hu
      obtain ⟨q, hq, hu⟩ := Option.bind_eq_some_iff.mp hu
      obtain rfl : q = u := Option.some.inj hu
      have htexts : Kind.texts.Admits q :=
        hbelow _ (Entries.mem_of_get? hq) .texts (by simp [providerKinds])
      cases htexts with
      | texts => trivial

theorem loadText_eq_ok_iff (hparse : Toml.parse? text = some es) :
    loadText text = .ok s ↔ readSettings es = .ok s := by
  have hsorted : es.Sorted := (entriesWritten_iff.mp (Toml.entriesWritten_parse? hparse)).1
  have hlayer : textLayer text none = { content := .ok es } := by
    rw [textLayer, hparse]
  have hmerged : merged [textLayer text none] = es := by
    rw [hlayer]
    exact overlayEntries_of_sorted (a := []) hsorted
  rw [loadText, load, hmerged, hlayer]
  cases hread : readSettings es with
  | ok settings => exact ⟨fun h => by cases h; rfl, fun h => by cases h; rfl⟩
  | error f => exact iff_of_false (fun h => by cases h) (fun h => by cases h)

theorem givenBy_of_readSettings (hwritten : EntriesWritten es) (hsections : HoldsSections es)
    (hread : readSettings es = .ok s) : s.GivenBy es := by
  have given {l : Leaf} {_ : Spelled l.Kind} (hl : IsLeaf l) (hspelled : ReadsSpelled l.read) :
      GivenAt es l.path (l.get s) (l.get {}) := by
    have hleads := hsections.leads hwritten hl
    have hleaf := hl.sound.extracts (.table es) s hleads hread
    rw [GivenAt]
    cases hat : Value.at? l.path (.table es) with
    | none =>
      rw [hat] at hleaf
      exact hleaf
    | some v =>
      rw [hat] at hleaf
      have hv : v.Written := Value.Written.at? (v := .table es) hwritten hleads hat
      exact hspelled v _ hv hleaf
  have scalar {n : Nat} (h : n < scalars.length) {_ : Spelled scalars[n].Kind}
      (hspelled : ReadsSpelled scalars[n].read) :
      GivenAt es scalars[n].path (scalars[n].get s) (scalars[n].get {}) :=
    given (.inl (List.getElem_mem h)) hspelled
  exact {
    name := scalar (n := 0) (by decide) readsSpelled_string
    logLevel := scalar (n := 1) (by decide) readsSpelled_string
    systemPrompt := scalar (n := 2) (by decide) readsSpelled_string.option
    systemPromptFile := scalar (n := 3) (by decide) readsSpelled_string.option
    stateDir := scalar (n := 4) (by decide) readsSpelled_string.option
    defaultModel := scalar (n := 5) (by decide) readsSpelled_string
    baseUrl := fun provider => given (.inr ⟨provider, rfl⟩) readsSpelled_string.option
    enabled := scalar (n := 6) (by decide) readsSpelled_bool
    bias := scalar (n := 7) (by decide) readsSpelled_bias
    t1 := scalar (n := 8) (by decide) readsSpelled_string.option
    t2 := scalar (n := 9) (by decide) readsSpelled_string.option
    t3 := scalar (n := 10) (by decide) readsSpelled_string.option
    t4 := scalar (n := 11) (by decide) readsSpelled_string.option
    dailyCap := scalar (n := 12) (by decide) readsSpelled_float.option
    monthlyCap := scalar (n := 13) (by decide) readsSpelled_float.option
    preferFree := scalar (n := 14) (by decide) readsSpelled_bool
    analytics := scalar (n := 15) (by decide) readsSpelled_bool
    analyticsPath := scalar (n := 16) (by decide) readsSpelled_string.option }

/-- A document whose sections are tables is accepted just when each of its keys is declared and
each value of the declared kind. Every setting is then what the document gives, or its default. -/
theorem loadText_iff_admits (hparse : Toml.parse? text = some es)
    (htables : TablesAt recordPaths (.table es)) :
    ((∃ s, loadText text = .ok s) ↔ schema.Admits (.table es)) ∧
      ∀ s, loadText text = .ok s → s.GivenBy es := by
  have hwritten : EntriesWritten es := Toml.entriesWritten_parse? hparse
  have hiff : (∃ s, loadText text = .ok s) ↔ schema.Admits (.table es) := by
    simp only [loadText_eq_ok_iff hparse]
    exact checks_settings hwritten htables
  refine ⟨hiff, fun s hs => ?_⟩
  have hsections := holdsSections_of_admits htables (hiff.mp ⟨s, hs⟩)
  exact givenBy_of_readSettings hwritten hsections ((loadText_eq_ok_iff hparse).mp hs)

def cappedText : String :=
  "[routing]\nbias = \"cost\"\nbudget.daily_cap_usd = 2\n[providers.base_urls]\na = \"u\"\n"

def cappedEntries : Entries :=
  [("providers", .table [("base_urls", .table [("a", .string "u")])]),
    ("routing", .table [("bias", .string "cost"),
      ("budget", .table [("daily_cap_usd", .signed 2)])])]

theorem loadText_iff_admits_capped :
    ∃ s, loadText cappedText = .ok s ∧ s.routing.budget.dailyCap = some (Float.ofInt 2) ∧
      s.routing.budget.monthlyCap = none := by
  have hparse : Toml.parse? cappedText = some cappedEntries := by cbv
  have htables : TablesAt recordPaths (.table cappedEntries) := by
    simp [TablesAt, recordPaths, cappedEntries, Value.at?, Entries.get?, Value.IsTable]
  have hbudget : (Kind.record budgetKinds).Admits (.table [("daily_cap_usd", .signed 2)]) :=
    admits_record_iff.mpr (by simp [budgetKinds, Kind.Admits.whole])
  have hrouting : (Kind.record routingKinds).Admits
      (.table [("bias", .string "cost"), ("budget", .table [("daily_cap_usd", .signed 2)])]) :=
    admits_record_iff.mpr (by simp [routingKinds, Kind.Admits.bias, hbudget])
  have hproviders : (Kind.record providerKinds).Admits
      (.table [("base_urls", .table [("a", .string "u")])]) :=
    admits_record_iff.mpr (by simp [providerKinds, admits_texts_iff, Kind.Admits.text])
  have hadmits : schema.Admits (.table cappedEntries) :=
    admits_record_iff.mpr (by simp [settingsKinds, cappedEntries, hrouting, hproviders])
  obtain ⟨hiff, hgives⟩ := loadText_iff_admits hparse htables
  obtain ⟨s, hs⟩ := hiff.mpr hadmits
  have hgiven := hgives s hs
  obtain ⟨cap, hcap, hspells⟩ : Spelled.Spells (Value.signed 2) s.routing.budget.dailyCap :=
    hgiven.dailyCap
  rcases hspells with hfloat | ⟨n, hn, rfl⟩
  · cases hfloat
  · cases hn
    exact ⟨s, hs, hcap, hgiven.monthlyCap⟩

/-- The table of addresses in a document. The section around it is a table of its fields, or an
array of their values in order. -/
def Entries.addresses? (es : Entries) : Option Value :=
  match es.get? "providers" with
  | some (.table fields) => Entries.get? fields "base_urls"
  | some (.array items) => items[1]?
  | _ => none

/-- What stands in a document as the address of a provider. -/
def Entries.address? (es : Entries) (provider : String) : Option Value :=
  es.addresses?.bind (Value.at? [provider])

example : Entries.address? [("providers", .array [.string "openai/gpt-4o",
    .table [("ollama", .string "http://localhost:11434")]])] "ollama" =
      some (.string "http://localhost:11434") := rfl

/-- The addresses of a section that is an array are its second item. -/
theorem readStrings_of_items {items : List Value} {p : ProviderSettings}
    (h : readSection "ProvidersConfig" providerFields (.array items) = .ok p) :
    match items[1]? with
    | some w => readStrings w = .ok p.baseUrls
    | none => p.baseUrls = [] := by
  match items with
  | [] =>
    cases h
    rfl
  | [v] =>
    obtain ⟨_, hname, h⟩ := bind_eq_ok.mp h
    obtain ⟨name, -, rfl⟩ := map_eq_ok.mp (under_eq_ok.mp hname)
    cases h
    rfl
  | v :: w :: items =>
    obtain ⟨_, hname, h⟩ := bind_eq_ok.mp h
    obtain ⟨name, -, rfl⟩ := map_eq_ok.mp (under_eq_ok.mp hname)
    obtain ⟨_, hurls, h⟩ := bind_eq_ok.mp h
    obtain ⟨urls, hread, rfl⟩ := map_eq_ok.mp (under_eq_ok.mp hurls)
    cases h
    exact hread

theorem readStrings_of_readSettings (hwritten : EntriesWritten es)
    (hread : readSettings es = .ok s) :
    match es.addresses? with
    | some w => w.Written ∧ readStrings w = .ok s.providers.baseUrls
    | none => s.providers.baseUrls = [] := by
  obtain ⟨hsorted, hvalues⟩ := entriesWritten_iff.mp hwritten
  have hproviders := tracks_providers.foldlM hsorted hread
  rw [Entries.addresses?]
  cases hget : es.get? "providers" with
  | none =>
    rw [hget] at hproviders
    exact congrArg ProviderSettings.baseUrls hproviders
  | some p =>
    rw [hget] at hproviders
    have hp : p.Written := hvalues _ (Entries.mem_of_get? hget)
    cases p with
    | table fields =>
      obtain ⟨hfields, hbelow⟩ := entriesWritten_iff.mp hp
      have hurls := tracks_baseUrls.foldlM hfields hproviders
      dsimp only
      cases hbase : Entries.get? fields "base_urls" with
      | none =>
        rw [hbase] at hurls
        exact hurls
      | some w =>
        rw [hbase] at hurls
        exact ⟨hbelow _ (Entries.mem_of_get? hbase), hurls⟩
    | array items =>
      have hurls := readStrings_of_items hproviders
      dsimp only
      cases hbase : items[1]? with
      | none =>
        rw [hbase] at hurls
        exact hurls
      | some w =>
        rw [hbase] at hurls
        exact ⟨itemsWritten_iff.mp hp w (List.mem_of_getElem? hbase), hurls⟩
    | _ => contradiction

/-- A table of texts has each text under its key. -/
theorem at?_of_readStrings {w : Value} {texts : List (String × String)} (hw : w.Written)
    (hread : readStrings w = .ok texts) (key : String) :
    w.at? [key] = (textUnder key texts).map .string := by
  have hleads : Leads [key] w := by
    cases w with
    | table es => exact ⟨es, rfl, (entriesWritten_iff.mp hw).1, fun _ _ => trivial⟩
    | _ => contradiction
  have htext := extracts_readStrings key w texts hleads hread
  cases hat : w.at? [key] with
  | none =>
    rw [hat] at htext
    rw [htext]
    rfl
  | some v =>
    rw [hat] at htext
    obtain ⟨t, ht, rfl⟩ := readsSpelled_string.option v _ (hw.at? hleads hat) htext
    rw [ht]
    rfl

/-- The address of a provider is the string that stands for it in the document. -/
theorem address?_of_loadText (hparse : Toml.parse? text = some es) (hs : loadText text = .ok s)
    (provider : String) :
    es.address? provider = (textUnder provider s.providers.baseUrls).map .string := by
  have hread := readStrings_of_readSettings (Toml.entriesWritten_parse? hparse)
    ((loadText_eq_ok_iff hparse).mp hs)
  rw [Entries.address?]
  cases haddresses : es.addresses? with
  | none =>
    rw [haddresses] at hread
    rw [hread]
    rfl
  | some w =>
    rw [haddresses] at hread
    exact at?_of_readStrings hread.1 hread.2 provider

end TierRouting.Config
