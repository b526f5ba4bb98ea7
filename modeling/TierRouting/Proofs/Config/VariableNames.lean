import TierRouting.Proofs.Config.Layers
import TierRouting.Proofs.Config.Schema
import TierRouting.Proofs.Text.AsciiLetters
import TierRouting.Proofs.Text.Splitting
import TierRouting.Proofs.Text.Trimming

/-! Which setting the name of a variable stands for, and which settings no name stands for. -/
namespace TierRouting.Text

variable {c : Char}

theorem not_isAlpha_of_isBlank (h : isBlank c = true) : c.isAlpha = false := by
  by_contra halpha
  simp only [isBlank, Bool.or_eq_true, Bool.and_eq_true, decide_eq_true_eq, beq_iff_eq] at h
  simp only [Char.isAlpha, Char.isUpper, Char.isLower, Bool.not_eq_false, Bool.or_eq_true,
    Bool.and_eq_true, decide_eq_true_eq, UInt32.le_iff_toNat_le] at halpha
  have hn : c.toNat = c.val.toNat := rfl
  simp at halpha
  omega

theorem not_isBlank_of_toLower (h : isBlank c.toLower = false) : isBlank c = false := by
  by_contra hc
  have hblank : isBlank c = true := by simpa using hc
  rw [toLower_eq_self (not_isAlpha_of_isBlank hblank), hblank] at h
  contradiction

end TierRouting.Text

namespace TierRouting.Config

variable {name : String} {path target : List String} {key start rest : List Char}

/-- What may stand in a name as it stands in a path, but for the case. -/
def isNameChar (c : Char) : Bool := c.isLower || c.isDigit || c == '_'

def IsWord (part : String) : Prop := part.toList.all isNameChar

instance (part : String) : Decidable (IsWord part) := inferInstanceAs (Decidable (_ = _))

namespace IsWord

variable {part : String} {c : Char}

theorem not_isBlank (h : IsWord part) (hc : c ∈ part.toList) : Text.isBlank c = false := by
  have hword : isNameChar c = true := List.all_eq_true.mp h c hc
  cases hblank : Text.isBlank c with
  | false => rfl
  | true =>
    have halpha := Text.not_isAlpha_of_isBlank hblank
    rw [Char.isAlpha, Bool.or_eq_false_iff] at halpha
    simp only [isNameChar, halpha.2, Bool.false_or, Bool.or_eq_true, beq_iff_eq] at hword
    rcases hword with hdigit | rfl
    · simp only [Text.isBlank, Bool.or_eq_true, Bool.and_eq_true, decide_eq_true_eq,
        beq_iff_eq] at hblank
      simp only [Char.isDigit, Bool.and_eq_true, decide_eq_true_eq, UInt32.le_iff_toNat_le]
        at hdigit
      have hn : c.toNat = c.val.toNat := rfl
      simp at hdigit
      omega
    · contradiction

theorem dot_not_mem (h : IsWord part) : '.' ∉ part.toList :=
  fun hdot => absurd (List.all_eq_true.mp h '.' hdot) (by decide)

end IsWord

namespace Environment

def dotted (path : List String) : List Char := Text.joinWith '.' (path.map String.toList)

/-- The path as it stands in the name of a variable, in lower case. -/
def variableKey (path : List String) : List Char :=
  (dotted path).map fun c => if c = '.' then '_' else c

/-- The names made from a path, in any mixture of cases. -/
def IsVariableFor (path : List String) (name : String) : Prop :=
  name.toList.map Char.toLower = namePrefix ++ variableKey path

instance (path : List String) (name : String) : Decidable (IsVariableFor path name) :=
  inferInstanceAs (Decidable (_ = _))

section Words

variable {c : Char} (hpath : ∀ part ∈ path, IsWord part)
include hpath

theorem not_isBlank_of_mem_dotted (h : c ∈ dotted path) : Text.isBlank c = false := by
  rcases Text.mem_joinWith h with rfl | ⟨l, hl, hc⟩
  · rfl
  · obtain ⟨part, hpart, rfl⟩ := List.mem_map.mp hl
    exact (hpath part hpart).not_isBlank hc

theorem not_isBlank_of_mem_variableKey (h : c ∈ variableKey path) : Text.isBlank c = false := by
  obtain ⟨d, hd, rfl⟩ := List.mem_map.mp h
  by_cases hdot : d = '.'
  · rw [if_pos hdot]
    rfl
  · rw [if_neg hdot]
    exact not_isBlank_of_mem_dotted hpath hd

/-- A dotted path is taken apart into what it was made of. -/
theorem splitAt_dotted (hne : path ≠ []) :
    Text.splitAt '.' (dotted path) = path.map String.toList := by
  refine Text.splitAt_joinWith (by simpa using hne) fun l hl => ?_
  obtain ⟨part, hpart, rfl⟩ := List.mem_map.mp hl
  exact (hpath part hpart).dot_not_mem

end Words

theorem not_isBlank_of_isVariableFor (h : IsVariableFor path name)
    (hpath : ∀ part ∈ path, IsWord part) {c : Char} (hc : c ∈ name.toList) :
    Text.isBlank c = false := by
  have hlower : c.toLower ∈ namePrefix ++ variableKey path := h ▸ List.mem_map_of_mem hc
  apply Text.not_isBlank_of_toLower
  rcases List.mem_append.mp hlower with hprefix | hkey
  · have hword : IsWord "blufio_" := by decide
    exact hword.not_isBlank hprefix
  · exact not_isBlank_of_mem_variableKey hpath hkey

/-- The name made from one path stands for the one that its key is mapped to. -/
theorem settingPath?_of_isVariableFor (h : IsVariableFor path name)
    (hpath : ∀ part ∈ path, IsWord part)
    (hkey : sectionPath (variableKey path) sections = dotted target) (hne : target ≠ [])
    (htarget : ∀ part ∈ target, IsWord part) (hparts : "" ∉ target) :
    settingPath? name = some target := by
  have htrim : Text.trim name.toList = name.toList :=
    Text.trim_of_not_isBlank fun c hc => not_isBlank_of_isVariableFor h hpath hc
  have hstart : (name.toList.take namePrefix.length).map Char.toLower = namePrefix := by
    rw [List.map_take, h, List.take_left]
  have hrest : (name.toList.drop namePrefix.length).map Char.toLower = variableKey path := by
    rw [List.map_drop, h, List.drop_left]
  have hsplit : Text.splitAt '.'
      (Text.trim (settingPath (name.toList.drop namePrefix.length))) =
        target.map String.toList := by
    rw [settingPath, hrest, hkey,
      Text.trim_of_not_isBlank fun c hc => not_isBlank_of_mem_dotted htarget hc,
      splitAt_dotted htarget hne]
  have hfilled : (target.map String.toList).any (·.isEmpty) = false := by
    simp only [List.any_eq_false, List.forall_mem_map, List.isEmpty_iff, String.toList_eq_nil_iff]
    rintro part hpart rfl
    exact hparts hpart
  have hback : (target.map String.toList).map String.ofList = target := by simp
  simp only [settingPath?, path?, htrim, hstart, if_true, hsplit, hfilled, Bool.false_eq_true,
    if_false, Option.map_some, hback]

theorem dropStart?_eq_some (h : dropStart? start key = some rest) : key = start ++ rest := by
  unfold dropStart? at h
  split at h
  · next hstart =>
    cases h
    exact (List.prefix_iff_eq_append.mp (List.isPrefixOf_iff_prefix.mp hstart)).symm
  · contradiction

/-- A key goes into a section whose start it has, or stays as it is. -/
theorem sectionPath_cases (key : List Char) (table : List (String × String)) :
    sectionPath key table = key ∨ ∃ e ∈ table, ∃ rest,
      key = e.1.toList ++ rest ∧ sectionPath key table = e.2.toList ++ rest := by
  induction table with
  | nil => exact .inl rfl
  | cons e table ih =>
    unfold sectionPath
    cases hstart : dropStart? e.1.toList key with
    | some rest => exact .inr ⟨e, List.mem_cons_self, rest, dropStart?_eq_some hstart, rfl⟩
    | none =>
      rcases ih with hkey | ⟨d, hd, rest, hrest⟩
      · exact .inl hkey
      · exact .inr ⟨d, List.mem_cons_of_mem e hd, rest, hrest⟩

/-- The sections that names lead to are those with a fixed set of keys. -/
theorem recordPaths_of_sections : ∀ e ∈ sections, ∃ above ∈ recordPaths,
    e.2.toList = dotted above ++ ['.'] ∧ above ≠ [] ∧ ∀ part ∈ above, IsWord part := by
  decide

theorem dot_not_mem_lower (h : '.' ∉ key) : '.' ∉ key.map Char.toLower := by
  intro hmem
  obtain ⟨c, hc, hlower⟩ := List.mem_map.mp hmem
  have halpha : c.isAlpha = false := by
    rw [← Char.isAlpha_toLower_eq_isAlpha, hlower]
    rfl
  rw [Text.toLower_eq_self halpha] at hlower
  exact h (hlower ▸ hc)

theorem settingPath?_eq_some (h : settingPath? name = some path) :
    path = (Text.splitAt '.' (Text.trim
      (settingPath ((Text.trim name.toList).drop namePrefix.length)))).map String.ofList := by
  obtain ⟨parts, hparts, rfl⟩ := Option.map_eq_some_iff.mp h
  have hnone : ¬ (none : Option (List (List Char))) = some parts := (Option.some_ne_none _).symm
  simp only [path?] at hparts
  split at hparts
  · split at hparts
    · exact absurd hparts hnone
    · rw [Option.some.inj hparts]
  · exact absurd hparts hnone

/-- Without a dot of its own, a name stands for a top-level value or a key of such a section. -/
theorem dropLast_mem_of_settingPath? (hdot : '.' ∉ name.toList)
    (h : settingPath? name = some path) : path.dropLast ∈ [] :: recordPaths := by
  have hkey : '.' ∉ ((Text.trim name.toList).drop namePrefix.length).map Char.toLower :=
    dot_not_mem_lower fun hmem => hdot (Text.mem_of_mem_trim (List.mem_of_mem_drop hmem))
  rw [settingPath?_eq_some h, settingPath]
  generalize ((Text.trim name.toList).drop namePrefix.length).map Char.toLower = key at hkey ⊢
  rcases sectionPath_cases key sections with hsame | ⟨e, he, rest, rfl, hpath⟩
  · rw [hsame, Text.splitAt_of_not_mem fun hmem => hkey (Text.mem_of_mem_trim hmem)]
    exact List.mem_cons_self
  · obtain ⟨above, habove, hfront, hne, hwords⟩ := recordPaths_of_sections e he
    have hplain : ∀ c ∈ dotted above ++ ['.'], Text.isBlank c = false := by
      intro c hc
      rcases List.mem_append.mp hc with hc | hc
      · exact not_isBlank_of_mem_dotted hwords hc
      · rw [List.mem_singleton.mp hc]
        rfl
    obtain ⟨kept, hkept, htrim⟩ := Text.exists_trim_append (List.concat_ne_nil _ _) hplain rest
    have hrest : '.' ∉ kept := fun hmem => hkey (List.mem_append_right _ (hkept hmem))
    rw [hpath, hfront, htrim, List.append_assoc, List.singleton_append, Text.splitAt_append_sep,
      splitAt_dotted hwords hne, Text.splitAt_of_not_mem hrest]
    simpa using List.mem_cons_of_mem [] habove

/-- The table of sections serves every single setting. -/
theorem sectionPath_of_scalars : ∀ path ∈ scalars.map Leaf.path,
    sectionPath (variableKey path) sections = dotted path ∧ (∀ part ∈ path, IsWord part) ∧
      "" ∉ path := by
  decide

/-- It has no entry for the table of addresses, which falls to the section around it. -/
theorem sectionPath_baseUrl {provider : String} (h : '.' ∉ provider.toList) :
    sectionPath (variableKey (baseUrl provider).path) sections =
      dotted ["providers", "base_urls_" ++ provider] := by
  have hsame : provider.toList.map (fun c => if c = '.' then '_' else c) = provider.toList := by
    refine (List.map_congr_left fun c hc => if_neg ?_).trans (List.map_id _)
    rintro rfl
    exact h hc
  have hpath : dotted (baseUrl provider).path =
      "providers.base_urls.".toList ++ provider.toList := rfl
  have hkey : variableKey (baseUrl provider).path =
      "providers_".toList ++ ("base_urls_".toList ++ provider.toList) := by
    rw [variableKey, hpath, List.map_append, hsame]
    rfl
  have hmapped : sectionPath (variableKey (baseUrl provider).path) sections =
      "providers.".toList ++ ("base_urls_".toList ++ provider.toList) := by
    rw [hkey]
    rfl
  rw [hmapped, ← String.toList_append]
  rfl

theorem dotted_baseUrl_ne (provider : String) :
    dotted ["providers", "base_urls_" ++ provider] ≠ dotted (baseUrl provider).path := by
  have hleft : dotted ["providers", "base_urls_" ++ provider] =
      "providers.base_urls_".toList ++ provider.toList := by
    simp [dotted, Text.joinWith]
  have hright : dotted (baseUrl provider).path =
      "providers.base_urls.".toList ++ provider.toList := rfl
  rw [hleft, hright]
  intro h
  exact absurd (List.append_cancel_right h) (by decide)

/-- The name made from an address is one for the key that it becomes. -/
theorem settingPath?_of_address {provider : String} (hprovider : IsWord provider)
    (h : IsVariableFor (baseUrl provider).path name) :
    settingPath? name = some ["providers", "base_urls_" ++ provider] := by
  have hsection : IsWord "providers" := by decide
  have htable : IsWord "base_urls" := by decide
  have hkey : IsWord ("base_urls_" ++ provider) := by
    have hfront : "base_urls_".toList.all isNameChar = true := by decide
    rw [IsWord, String.toList_append, List.all_append, hfront, hprovider]
    rfl
  refine settingPath?_of_isVariableFor h ?_ (sectionPath_baseUrl hprovider.dot_not_mem)
    (List.cons_ne_nil _ _) ?_ ?_
  · exact List.forall_mem_cons.mpr ⟨hsection, List.forall_mem_cons.mpr ⟨htable,
      List.forall_mem_singleton.mpr hprovider⟩⟩
  · exact List.forall_mem_cons.mpr ⟨hsection, List.forall_mem_singleton.mpr hkey⟩
  · simp

end Environment

/-- Of the keys for providers, reading admits no others. -/
theorem providers_declared {es : Entries} {settings : Settings} {key : String} {w : Value}
    (hread : readSettings es = .ok settings) (hleads : Leads ["providers", key] (.table es))
    (hw : Value.at? ["providers", key] (.table es) = some w) :
    key = "default_model" ∨ key = "base_urls" := by
  obtain ⟨_, ⟨⟩, hsorted, hbelow⟩ := hleads
  have hproviders := tracks_providers.foldlM hsorted hread
  rw [at?_cons_table] at hw
  obtain ⟨v, hv, hw⟩ := Option.bind_eq_some_iff.mp hw
  obtain ⟨inner, rfl, -, -⟩ := hbelow v hv
  rw [hv] at hproviders
  rw [at?_cons_table] at hw
  obtain ⟨u, hu, -⟩ := Option.bind_eq_some_iff.mp hw
  obtain ⟨e, he, -⟩ := Option.map_eq_some_iff.mp hu
  have hkey : e.1 = key := by simpa using List.find?_some he
  have hdeclared := declared_of_foldlM hproviders e (List.mem_of_find?_eq_some he)
  have hkeys : providerFields.map (·.key) = ["default_model", "base_urls"] := rfl
  simpa [hkeys, hkey] using hdeclared

/-- Where names lead: to single settings, and to the undeclared keys that come of addresses. -/
def IsNamedPath (path : List String) : Prop :=
  IsLeafPath path ∨ ∃ provider, path = ["providers", "base_urls_" ++ provider]

theorem base_urls_append_ne (provider : String) :
    "base_urls_" ++ provider ≠ "base_urls" ∧ "base_urls_" ++ provider ≠ "default_model" := by
  constructor
  · intro h
    have hlength := congrArg String.length h
    rw [String.length_append] at hlength
    have hname : "base_urls_".length = 10 := rfl
    have hshort : "base_urls".length = 9 := rfl
    omega
  · intro h
    have hlist := congrArg String.toList h
    rw [String.toList_append] at hlist
    exact absurd (List.cons.inj hlist).1 (by decide)

theorem prefix_pair_cases {key : String} (h : path <+: ["providers", key]) :
    path = [] ∨ path = ["providers"] ∨ path = ["providers", key] := by
  have hinits : path ∈ [[], ["providers"], ["providers", key]] := (List.mem_inits _ _).mpr h
  simpa using hinits

/-- The keys that come of addresses stand beside the leaves, on the way to none of them. -/
theorem prefixFree_isNamedPath : PrefixFree IsNamedPath where
  ne_nil := by
    rintro path (hleaf | ⟨provider, rfl⟩)
    · exact prefixFree_isLeafPath.ne_nil path hleaf
    · exact List.cons_ne_nil _ _
  eq := by
    rintro p q (⟨l, hl, rfl⟩ | ⟨provider, rfl⟩) hq hprefix
    · rcases hq with hq | ⟨provider, rfl⟩
      · exact prefixFree_isLeafPath.eq _ _ ⟨l, hl, rfl⟩ hq hprefix
      · rcases prefix_pair_cases hprefix with hnil | hsection | heq
        · exact absurd hnil l.path_ne_nil
        · exact absurd (hsection ▸ by decide) hl.path_not_mem
        · exact heq
    · rcases hq with ⟨l, hl, rfl⟩ | ⟨other, rfl⟩
      · rcases hl.prefix_cases hprefix with heq | hnil | hsection
        · exact heq
        · exact absurd hnil (List.cons_ne_nil _ _)
        · have hne := base_urls_append_ne provider
          simp [sectionPaths, hne] at hsection
      · exact hprefix.eq_of_length rfl

namespace Surroundings

variable {s : Surroundings} {settings : Settings} {provider : String} {b : String × String}

/-- An address among the variables keeps the settings from being loaded. -/
theorem not_loaded_of_address
    (hfiles : ∀ file ∈ s.configPaths, HoldsSections (s.fileLayer file).entries)
    (henv : s.env.SetsDistinct IsNamedPath) (hb : b ∈ s.env.bindings)
    (hpath : Environment.settingPath? b.1 = some ["providers", "base_urls_" ++ provider]) :
    s.loadAll ≠ .ok settings := by
  intro hload
  have hread := load_eq_ok hload
  have hnamed : IsNamedPath ["providers", "base_urls_" ++ provider] := .inr ⟨provider, rfl⟩
  obtain ⟨hvars, hat⟩ := Environment.at?_entries prefixFree_isNamedPath henv hnamed
  rw [Environment.setting?_of_mem henv hb hpath] at hat
  have hleads : ∀ t ∈ (s.configPaths.map s.fileLayer ++ [s.envLayer]).map Layer.entries,
      Leads ["providers", "base_urls_" ++ provider] (.table t) := by
    simp only [List.map_append, List.map_map, List.forall_mem_append, List.forall_mem_map]
    refine ⟨fun file hfile => ?_, fun layer hlayer => ?_⟩
    · have hwritten : (Value.table (s.fileLayer file).entries).Written :=
        entriesWritten_fileLayer s file
      refine hwritten.leads fun p hp hne w hw => ?_
      rcases prefix_pair_cases hp with rfl | rfl | heq
      · cases hw
        trivial
      · exact hfiles file hfile ["providers"] (by decide) w hw
      · exact absurd heq hne
    · rw [List.mem_singleton.mp hlayer]
      exact hvars
  obtain ⟨hmerged, hmergedAt⟩ := at?_foldl (leads_nil _) hleads
  -- The variables come last, so that what is read has the undeclared key.
  have hpresent : ∃ w, Value.at? ["providers", "base_urls_" ++ provider]
      (.table (((s.configPaths.map s.fileLayer ++ [s.envLayer]).map Layer.entries).foldl
        overlayEntries [])) = some w := by
    refine Option.ne_none_iff_exists'.mp fun hnone => ?_
    rw [hmergedAt] at hnone
    have hlast := none_of_foldl hnone
    have henvLayer : s.envLayer.entries = s.env.entries := rfl
    simp [henvLayer, hat] at hlast
  obtain ⟨w, hw⟩ := hpresent
  obtain ⟨hne, hne'⟩ := base_urls_append_ne provider
  rcases providers_declared hread hmerged hw with heq | heq
  · exact hne' heq
  · exact hne heq

end Surroundings

/-- A single setting, or the address of a provider whose name can be a part of a variable's. -/
def IsNameable (l : Leaf) : Prop := l ∈ scalars ∨ ∃ provider, IsWord provider ∧ l = baseUrl provider

open Environment in
/-- The name made from the path of a leaf stands for it in any mixture of cases, and its variable
then has the last word, just if the leaf is no address: no start of names leads into the table of
addresses. The name made from an address stands for an undeclared key, with which nothing is
loaded, and no name without a dot of its own stands for the address. -/
theorem leaf_set_by_variable_iff {l : Leaf} (hl : IsNameable l) :
    (∀ key, key.map Char.toLower = variableKey l.path →
      (settingPath key = dotted l.path ↔ l.above ≠ ["providers", "base_urls"])) ∧
    (l.above ≠ ["providers", "base_urls"] → ∀ s settings, Surroundings.Loads s settings →
      ∀ b ∈ s.env.bindings, IsVariableFor l.path b.1 →
        l.read (value b.2) = .ok (l.get settings)) ∧
    (l.above = ["providers", "base_urls"] →
      (∀ key, key.map Char.toLower = variableKey l.path →
        settingPath key = dotted ["providers", "base_urls_" ++ l.key]) ∧
      (∀ s : Surroundings, (∀ file ∈ s.configPaths, HoldsSections (s.fileLayer file).entries) →
        s.env.SetsDistinct IsNamedPath → ∀ b ∈ s.env.bindings, IsVariableFor l.path b.1 →
          ∀ settings, s.loadAll ≠ .ok settings) ∧
      ∀ name, '.' ∉ name.toList → settingPath? name ≠ some l.path) := by
  rcases hl with hl | ⟨provider, hprovider, rfl⟩
  · have hall : ∀ above ∈ scalars.map (·.above), above ≠ ["providers", "base_urls"] := by decide
    have habove := hall l.above (List.mem_map_of_mem hl)
    obtain ⟨hkey, hwords, hfilled⟩ := sectionPath_of_scalars l.path (List.mem_map_of_mem hl)
    refine ⟨fun key hlower => ?_, fun _ s settings hloads b hb hname => ?_,
      fun he => absurd he habove⟩
    · rw [settingPath, hlower, hkey]
      exact iff_of_true rfl habove
    · have hpath := settingPath?_of_isVariableFor hname hwords hkey l.path_ne_nil hwords hfilled
      have hset : s.setting? l.path = some (value b.2) := by
        rw [Surroundings.setting?, setting?_of_mem hloads.environment hb hpath, Option.some_or]
      have hleaf := hloads.leaf (.inl hl)
      rw [hset] at hleaf
      exact hleaf
  · have hmapped (key : List Char) (hlower : key.map Char.toLower =
        variableKey (baseUrl provider).path) :
        settingPath key = dotted ["providers", "base_urls_" ++ provider] := by
      rw [settingPath, hlower, sectionPath_baseUrl hprovider.dot_not_mem]
    refine ⟨fun key hlower => ?_, fun hne => absurd rfl hne,
      fun _ => ⟨hmapped, fun s hfiles henv b hb hname settings => ?_, fun name hdot hpath => ?_⟩⟩
    · rw [hmapped key hlower]
      exact iff_of_false (dotted_baseUrl_ne provider) fun hne => hne rfl
    · exact Surroundings.not_loaded_of_address hfiles henv hb
        (settingPath?_of_address hprovider hname)
    · have hreach : ["providers", "base_urls"] ∈ [] :: recordPaths :=
        dropLast_mem_of_settingPath? hdot hpath
      exact absurd hreach (by decide)

open Environment Surroundings in
/-- The bias comes from a variable, under a name in mixed case as well. An address never does. -/
theorem leaf_set_by_variable_iff_two :
    settingPath "Routing_BIAS".toList = dotted ["routing", "bias"] ∧
      (∃ settings, twoFiles.Loads settings ∧
        readBias (value "cost") = .ok settings.routing.bias) ∧
      settingPath "PROVIDERS_BASE_URLS_OLLAMA".toList =
        dotted ["providers", "base_urls_ollama"] ∧
      (∀ settings, Surroundings.loadAll
        { twoFiles with env := ⟨[("BLUFIO_PROVIDERS_BASE_URLS_OLLAMA", "u"), ("HOME", "/home")]⟩ }
          ≠ .ok settings) ∧
      settingPath? "BLUFIO_PROVIDERS_BASE_URLS__OLLAMA" ≠
        some ["providers", "base_urls", "ollama"] := by
  obtain ⟨hkey, hvalue, -⟩ := leaf_set_by_variable_iff (l := scalars[7])
    (.inl (List.getElem_mem _))
  obtain ⟨-, -, haddress⟩ := leaf_set_by_variable_iff (l := baseUrl "ollama")
    (.inr ⟨"ollama", by decide, rfl⟩)
  obtain ⟨hmapped, hloads, hunreached⟩ := haddress rfl
  refine ⟨(hkey _ (by decide)).mpr (by decide), ⟨_, loads_twoFiles, ?_⟩, hmapped _ (by decide), ?_,
    hunreached _ (by decide)⟩
  · exact hvalue (by decide) _ _ loads_twoFiles ("BLUFIO_ROUTING_BIAS", "cost") (.head _)
      (by decide)
  · refine hloads _ loads_twoFiles.sections ?_ _ (.head _) (by decide)
    have hollama : settingPath? "BLUFIO_PROVIDERS_BASE_URLS_OLLAMA" =
        some ["providers", "base_urls_ollama"] := rfl
    have hhome : settingPath? "HOME" = none := rfl
    have hnamed : IsNamedPath ["providers", "base_urls_ollama"] := .inr ⟨"ollama", rfl⟩
    constructor
    · simp [hollama, hhome, hnamed]
    · simp [hollama, hhome]

open Environment in
/-- The name of the variable for an address is not mapped back to its path. -/
theorem not_forall_mapped_back : ¬ ∀ l, IsNameable l →
    ∀ key, key.map Char.toLower = variableKey l.path → settingPath key = dotted l.path := by
  intro h
  have hollama := h (baseUrl "ollama") (.inr ⟨"ollama", by decide, rfl⟩)
    "PROVIDERS_BASE_URLS_OLLAMA".toList (by decide)
  exact absurd hollama (by decide)

end TierRouting.Config
