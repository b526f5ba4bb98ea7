import Mathlib.Data.List.Forall2
import TierRouting.Proofs.Config.Leaves
import TierRouting.Proofs.Toml.Written

/-! Which tables hold settings: the keys of every section, and the values that each key admits. -/
namespace TierRouting.Config

/-- What may stand under a key. -/
inductive Kind where
  | text
  | flag
  /-- A number of dollars, with or without a point. -/
  | amount
  | bias
  /-- A table of texts under any keys. -/
  | texts
  | record (fields : List (String × Kind))

inductive Kind.Admits : Kind → Value → Prop where
  | text (s : String) : Admits .text (.string s)
  | flag (b : Bool) : Admits .flag (.bool b)
  | whole (n : Int) : Admits .amount (.signed n)
  | amount (x : Float) : Admits .amount (.float x)
  | bias {name : String} : name ∈ ["cost", "balanced", "quality"] → Admits .bias (.string name)
  | texts {es : Entries} : (∀ e ∈ es, Admits .text e.2) → Admits .texts (.table es)
  | record {fields : List (String × Kind)} {es : Entries} :
    (∀ e ∈ es, e.1 ∈ fields.map (·.1)) →
      (∀ e ∈ es, ∀ kind, (e.1, kind) ∈ fields → Admits kind e.2) →
        Admits (.record fields) (.table es)

def agentKinds : List (String × Kind) :=
  [("name", .text), ("log_level", .text), ("system_prompt", .text), ("system_prompt_file", .text),
    ("state_dir", .text)]

def providerKinds : List (String × Kind) := [("default_model", .text), ("base_urls", .texts)]

def tierKinds : List (String × Kind) := [("t1", .text), ("t2", .text), ("t3", .text), ("t4", .text)]

def budgetKinds : List (String × Kind) :=
  [("daily_cap_usd", .amount), ("monthly_cap_usd", .amount), ("prefer_free", .flag)]

def analyticsKinds : List (String × Kind) := [("enabled", .flag), ("path", .text)]

def routingKinds : List (String × Kind) :=
  [("enabled", .flag), ("bias", .bias), ("tiers", .record tierKinds),
    ("budget", .record budgetKinds), ("analytics", .record analyticsKinds)]

def settingsKinds : List (String × Kind) :=
  [("agent", .record agentKinds), ("providers", .record providerKinds),
    ("routing", .record routingKinds)]

/-- The settings as a whole. -/
def schema : Kind := .record settingsKinds

variable {σ α : Type} {kind : Kind} {kinds : List (String × Kind)} {fields : List (Field σ)}
  {key name : String} {read : Value → Extracted α} {v w : Value} {es : Entries}
  {e : String × Value} {start : σ} {paths inner : List (List String)}

theorem admits_texts_iff : Kind.texts.Admits (.table es) ↔ ∀ e ∈ es, Kind.text.Admits e.2 := by
  constructor
  · intro h
    cases h with
    | texts h => exact h
  · exact .texts

theorem admits_record_iff :
    (Kind.record kinds).Admits (.table es) ↔
      ∀ e ∈ es, e.1 ∈ kinds.map (·.1) ∧ ∀ kind, (e.1, kind) ∈ kinds → kind.Admits e.2 := by
  constructor
  · intro h
    cases h with
    | record hdeclared hadmits => exact fun e he => ⟨hdeclared e he, hadmits e he⟩
  · exact fun h => .record (fun e he => (h e he).1) fun e he => (h e he).2

/-- A value is read just when its kind admits it. -/
def Checks (kind : Kind) (v : Value) (read : Value → Extracted α) : Prop :=
  (∃ a, read v = .ok a) ↔ kind.Admits v

theorem Checks.option (h : Checks kind v read) : Checks kind v (readOption read) := by
  refine Iff.trans ⟨?_, ?_⟩ h
  · rintro ⟨_, hread⟩
    obtain ⟨a, ha, -⟩ := map_eq_ok.mp hread
    exact ⟨a, ha⟩
  · rintro ⟨a, ha⟩
    exact ⟨some a, map_eq_ok.mpr ⟨a, ha, rfl⟩⟩

theorem checks_text (hv : v.Written) : Checks .text v readString := by
  cases v with
  | string s => exact ⟨fun _ => .text s, fun _ => ⟨s, rfl⟩⟩
  | char c => simp [Value.Written] at hv
  | _ => exact ⟨nofun, nofun⟩

theorem checks_flag (v : Value) : Checks .flag v readBool := by
  cases v with
  | bool b => exact ⟨fun _ => .flag b, fun _ => ⟨b, rfl⟩⟩
  | _ => exact ⟨nofun, nofun⟩

theorem checks_amount (hv : v.Written) : Checks .amount v readFloat := by
  cases v with
  | signed n => exact ⟨fun _ => .whole n, fun _ => ⟨_, rfl⟩⟩
  | float x => exact ⟨fun _ => .amount x, fun _ => ⟨x, rfl⟩⟩
  | unsigned n => simp [Value.Written] at hv
  | _ => exact ⟨nofun, nofun⟩

theorem biasNamed_eq_ok {b : Bias} : biasNamed name = .ok b ↔ b.label = name := by
  unfold biasNamed
  constructor
  · intro h
    split at h
    · next c hc =>
      cases h
      simpa using List.find?_some hc
    · contradiction
  · rintro rfl
    cases b <;> rfl

theorem checks_bias (v : Value) : Checks .bias v readBias := by
  cases v with
  | string s =>
    constructor
    · rintro ⟨b, hb⟩
      obtain rfl : b.label = s := biasNamed_eq_ok.mp hb
      exact .bias (by cases b <;> decide)
    · intro h
      have hs : s ∈ Bias.all.map Bias.label := by
        cases h with
        | bias hs => exact hs
      obtain ⟨b, -, hb⟩ := List.mem_map.mp hs
      exact ⟨b, biasNamed_eq_ok.mpr hb⟩
  | table es => exact ⟨fun ⟨b, hb⟩ => (rejectsTables_readBias _ b hb trivial).elim, nofun⟩
  | _ => exact ⟨nofun, nofun⟩

theorem exists_readStrings_iff (hes : ∀ e ∈ es, e.2.Written) :
    (∃ texts, readStrings (.table es) = .ok texts) ↔ ∀ e ∈ es, Kind.text.Admits e.2 := by
  unfold readStrings
  dsimp only
  induction es with
  | nil => exact ⟨fun _ => nofun, fun _ => ⟨[], rfl⟩⟩
  | cons e es ih =>
    have hhead : (∃ t, readString e.2 = .ok t) ↔ Kind.text.Admits e.2 :=
      checks_text (hes e List.mem_cons_self)
    have htail := ih fun d hd => hes d (List.mem_cons_of_mem e hd)
    rw [List.forall_mem_cons, ← htail, ← hhead]
    constructor
    · rintro ⟨_, hread⟩
      rw [List.mapM_cons, bind_eq_ok] at hread
      obtain ⟨_, hpair, hrest⟩ := hread
      obtain ⟨t, ht, -⟩ := map_eq_ok.mp hpair
      obtain ⟨texts, htexts, -⟩ := bind_eq_ok.mp hrest
      exact ⟨⟨t, under_eq_ok.mp ht⟩, texts, htexts⟩
    · rintro ⟨⟨t, ht⟩, texts, htexts⟩
      refine ⟨(e.1, t) :: texts, ?_⟩
      rw [List.mapM_cons, bind_eq_ok]
      exact ⟨(e.1, t), map_eq_ok.mpr ⟨t, under_eq_ok.mpr ht, rfl⟩,
        bind_eq_ok.mpr ⟨texts, htexts, rfl⟩⟩

theorem checks_texts (hv : v.Written) : Checks .texts v readStrings := by
  cases v with
  | table es =>
    have hes : EntriesWritten es := hv
    rw [Checks, exists_readStrings_iff (entriesWritten_iff.mp hes).2, admits_texts_iff]
  | _ => exact ⟨nofun, nofun⟩

/-- Setting a field succeeds just for the values that a kind admits. -/
def Field.Checks (f : Field σ) (kind : Kind) (v : Value) : Prop :=
  ∀ s, (∃ s', f.set s v = .ok s') ↔ kind.Admits v

theorem Checks.field {set : σ → α → σ} (h : Checks kind v read) :
    (field key read set).Checks kind v := by
  intro s
  refine Iff.trans ⟨?_, ?_⟩ h
  · rintro ⟨_, hset⟩
    obtain ⟨a, ha, -⟩ := map_eq_ok.mp hset
    exact ⟨a, ha⟩
  · rintro ⟨a, ha⟩
    exact ⟨set s a, map_eq_ok.mpr ⟨a, ha, rfl⟩⟩

/-- A field and a declared key agree on an entry: they have one name, and if it is the one of the
entry, the field takes just the values of the kind. -/
def Agree (e : String × Value) (f : Field σ) (d : String × Kind) : Prop :=
  f.key = d.1 ∧ (d.1 = e.1 → f.Checks d.2 e.2)

theorem exists_setEntry_iff (hkeys : (kinds.map (·.1)).Nodup)
    (h : List.Forall₂ (Agree e) fields kinds) (s : σ) :
    (∃ s', setEntry fields s e = .ok s') ↔
      e.1 ∈ kinds.map (·.1) ∧ ∀ kind, (e.1, kind) ∈ kinds → kind.Admits e.2 := by
  have hfind : (fields.find? (·.key == e.1)).elim (e.1 ∉ kinds.map (·.1)) fun f =>
      ∃ kind, (∀ k, (e.1, k) ∈ kinds ↔ k = kind) ∧ f.Checks kind e.2 := by
    induction h with
    | nil => exact List.not_mem_nil
    | @cons f d fields kinds hfd _ ih =>
      obtain ⟨hname, hchecks⟩ := hfd
      rw [List.map_cons, List.nodup_cons] at hkeys
      by_cases hd : d.1 = e.1
      · rw [List.find?_cons_of_pos (by simp [hname, hd])]
        refine ⟨d.2, fun k => ?_, hchecks hd⟩
        have hrest : (e.1, k) ∉ kinds := by
          intro hk
          exact hkeys.1 (hd ▸ List.mem_map_of_mem hk)
        rw [List.mem_cons, or_iff_left hrest, ← hd, Prod.ext_iff]
        simp
      · have hne : ∀ k, (e.1, k) ≠ d := by
          rintro k rfl
          exact hd rfl
        rw [List.find?_cons_of_neg (by simp [hname, hd])]
        simpa [hne, Ne.symm hd] using ih hkeys.2
  rw [setEntry]
  simp only [under_eq_ok]
  cases hf : fields.find? (·.key == e.1) with
  | none =>
    rw [hf] at hfind
    exact iff_of_false (by simp) fun hadmits => hfind hadmits.1
  | some f =>
    rw [hf] at hfind
    obtain ⟨kind, hkind, hchecks⟩ := hfind
    have hmem : e.1 ∈ kinds.map (·.1) := List.mem_map_of_mem ((hkind kind).mpr rfl)
    rw [hchecks s]
    simp [hmem, hkind]

theorem exists_foldlM_iff {β : Type} {step : σ → β → Extracted σ} {P : β → Prop} {bs : List β}
    (h : ∀ b ∈ bs, ∀ s, (∃ s', step s b = .ok s') ↔ P b) (start : σ) :
    (∃ s, bs.foldlM step start = .ok s) ↔ ∀ b ∈ bs, P b := by
  induction bs generalizing start with
  | nil => exact ⟨fun _ => nofun, fun _ => ⟨start, rfl⟩⟩
  | cons b bs ih =>
    have hb := h b List.mem_cons_self
    have hbs := ih fun c hc => h c (List.mem_cons_of_mem b hc)
    rw [List.forall_mem_cons]
    constructor
    · rintro ⟨s, hfold⟩
      rw [List.foldlM_cons, bind_eq_ok] at hfold
      obtain ⟨next, hnext, hrest⟩ := hfold
      exact ⟨(hb start).mp ⟨next, hnext⟩, (hbs next).mp ⟨s, hrest⟩⟩
    · rintro ⟨hP, hrest⟩
      obtain ⟨next, hnext⟩ := (hb start).mpr hP
      obtain ⟨s, hs⟩ := (hbs next).mpr hrest
      exact ⟨s, by rw [List.foldlM_cons, bind_eq_ok]; exact ⟨next, hnext, hs⟩⟩

/-- A table is read as a section just when each of its keys is declared and each value admitted. -/
theorem checks_record [Inhabited σ] (hkeys : (kinds.map (·.1)).Nodup)
    (h : ∀ e ∈ es, List.Forall₂ (Agree e) fields kinds) :
    Checks (.record kinds) (.table es) (readSection name fields) := by
  rw [Checks, admits_record_iff]
  exact exists_foldlM_iff (fun e he => exists_setEntry_iff hkeys (h e he)) default

/-- Where there is anything at one of the paths, it is a table. -/
def TablesAt (paths : List (List String)) (v : Value) : Prop :=
  ∀ path ∈ paths, ∀ w, v.at? path = some w → w.IsTable

theorem TablesAt.exists_table (h : TablesAt paths v) (hnil : [] ∈ paths) :
    ∃ es, v = .table es := by
  have hv : v.IsTable := h [] hnil v rfl
  cases v with
  | table es => exact ⟨es, rfl⟩
  | _ => exact hv.elim

theorem TablesAt.entry (h : TablesAt paths (.table es)) (hes : es.Sorted) (he : e ∈ es)
    (hpaths : ∀ path ∈ inner, (e.1 :: path) ∈ paths) : TablesAt inner e.2 := by
  intro path hpath w hw
  apply h (e.1 :: path) (hpaths path hpath) w
  rw [at?_cons_table, hes.get?_of_mem he]
  exact hw

/-- What the entries of a section have to satisfy one by one. -/
theorem checks_section [Inhabited σ] (hkeys : (kinds.map (·.1)).Nodup) (hv : v.Written)
    (htables : TablesAt paths v) (hnil : [] ∈ paths)
    (h : ∀ e : String × Value, e.2.Written →
      (∀ {inner}, (∀ path ∈ inner, (e.1 :: path) ∈ paths) → TablesAt inner e.2) →
        List.Forall₂ (Agree e) fields kinds) :
    Checks (.record kinds) v (readSection name fields) := by
  obtain ⟨es, rfl⟩ := htables.exists_table hnil
  have hes : EntriesWritten es := hv
  obtain ⟨hsorted, hwritten⟩ := entriesWritten_iff.mp hes
  exact checks_record hkeys fun e he =>
    h e (hwritten e he) fun hpaths => htables.entry hsorted he hpaths

theorem checks_tiers (hv : v.Written) (htable : TablesAt [[]] v) :
    Checks (.record tierKinds) v (readSection "TierModelsConfig" tierFields) := by
  refine checks_section (by decide) hv htable (by decide) fun e he _ => ?_
  have text := (checks_text he).option
  exact .cons ⟨rfl, fun _ => text.field⟩ <| .cons ⟨rfl, fun _ => text.field⟩ <|
    .cons ⟨rfl, fun _ => text.field⟩ <| .cons ⟨rfl, fun _ => text.field⟩ .nil

theorem checks_budget (hv : v.Written) (htable : TablesAt [[]] v) :
    Checks (.record budgetKinds) v (readSection "RoutingBudgetConfig" budgetFields) := by
  refine checks_section (by decide) hv htable (by decide) fun e he _ => ?_
  have amount := (checks_amount he).option
  exact .cons ⟨rfl, fun _ => amount.field⟩ <| .cons ⟨rfl, fun _ => amount.field⟩ <|
    .cons ⟨rfl, fun _ => (checks_flag e.2).field⟩ .nil

theorem checks_analytics (hv : v.Written) (htable : TablesAt [[]] v) :
    Checks (.record analyticsKinds) v (readSection "AnalyticsConfig" analyticsFields) := by
  refine checks_section (by decide) hv htable (by decide) fun e he _ => ?_
  have text := (checks_text he).option
  exact .cons ⟨rfl, fun _ => (checks_flag e.2).field⟩ <| .cons ⟨rfl, fun _ => text.field⟩ .nil

theorem checks_agent (hv : v.Written) (htable : TablesAt [[]] v) :
    Checks (.record agentKinds) v (readSection "AgentConfig" agentFields) := by
  refine checks_section (by decide) hv htable (by decide) fun e he _ => ?_
  have text := checks_text he
  exact .cons ⟨rfl, fun _ => text.field⟩ <| .cons ⟨rfl, fun _ => text.field⟩ <|
    .cons ⟨rfl, fun _ => text.option.field⟩ <| .cons ⟨rfl, fun _ => text.option.field⟩ <|
    .cons ⟨rfl, fun _ => text.option.field⟩ .nil

theorem checks_providers (hv : v.Written) (htable : TablesAt [[]] v) :
    Checks (.record providerKinds) v (readSection "ProvidersConfig" providerFields) := by
  refine checks_section (by decide) hv htable (by decide) fun e he _ => ?_
  exact .cons ⟨rfl, fun _ => (checks_text he).field⟩ <|
    .cons ⟨rfl, fun _ => (checks_texts he).field⟩ .nil

theorem checks_routing (hv : v.Written)
    (htables : TablesAt [[], ["tiers"], ["budget"], ["analytics"]] v) :
    Checks (.record routingKinds) v (readSection "RoutingConfig" routingFields) := by
  refine checks_section (by decide) hv htables (by decide) fun e he hinner => ?_
  have table (hkey : [e.1] ∈ [[], ["tiers"], ["budget"], ["analytics"]]) : TablesAt [[]] e.2 :=
    hinner (by simpa using hkey)
  exact .cons ⟨rfl, fun _ => (checks_flag e.2).field⟩ <|
    .cons ⟨rfl, fun _ => (checks_bias e.2).field⟩ <|
    .cons ⟨rfl, fun hkey => (checks_tiers he (table (by simp [← hkey]))).field⟩ <|
    .cons ⟨rfl, fun hkey => (checks_budget he (table (by simp [← hkey]))).field⟩ <|
    .cons ⟨rfl, fun hkey => (checks_analytics he (table (by simp [← hkey]))).field⟩ .nil

/-- The paths of the sections that have a fixed set of keys. -/
def recordPaths : List (List String) :=
  [["agent"], ["providers"], ["routing"], ["routing", "tiers"], ["routing", "budget"],
    ["routing", "analytics"]]

theorem checks_settings (hes : EntriesWritten es) (htables : TablesAt recordPaths (.table es)) :
    Checks schema (.table es) (readSection "BlufioConfig" settingsFields) := by
  refine checks_record (by decide) fun e he => ?_
  obtain ⟨hsorted, hwritten⟩ := entriesWritten_iff.mp hes
  have tables {inner : List (List String)} (hpaths : ∀ path ∈ inner, (e.1 :: path) ∈ recordPaths) :
      TablesAt inner e.2 := htables.entry hsorted he hpaths
  exact .cons ⟨rfl, fun hkey =>
      (checks_agent (hwritten e he) (tables (by simp [← hkey, recordPaths]))).field⟩ <|
    .cons ⟨rfl, fun hkey =>
      (checks_providers (hwritten e he) (tables (by simp [← hkey, recordPaths]))).field⟩ <|
    .cons ⟨rfl, fun hkey =>
      (checks_routing (hwritten e he) (tables (by simp [← hkey, recordPaths]))).field⟩ .nil

end TierRouting.Config
