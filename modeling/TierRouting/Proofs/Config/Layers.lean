import Mathlib
import TierRouting.Proofs.Config.Leaves
import TierRouting.Proofs.Files.Opening
import TierRouting.Proofs.Toml.Written

/-! Each single setting has the value of the last layer that sets it, or else its default. -/
namespace TierRouting.Config

variable {s s' : Surroundings} {settings settings' : Settings} {es : Entries} {v : Value}
  {path : List String} {l : Leaf} {layers : List Layer}

/-- Where there is anything at the path of a section, it is a table. -/
def HoldsSections (es : Entries) : Prop :=
  ∀ path ∈ sectionPaths, ∀ v, Value.at? path (.table es) = some v → v.IsTable

theorem Value.Written.leads (hv : v.Written)
    (h : ∀ p, p <+: path → p ≠ path → ∀ w, Value.at? p v = some w → w.IsTable) :
    Leads path v := by
  induction path generalizing v with
  | nil => trivial
  | cons key path ih =>
    cases v with
    | table es =>
      obtain ⟨hsorted, hbelow⟩ := entriesWritten_iff.mp hv
      refine ⟨es, rfl, hsorted, fun w hw => ?_⟩
      have hmem : w.Written := by
        obtain ⟨e, he, rfl⟩ := Option.map_eq_some_iff.mp hw
        exact hbelow e (List.mem_of_find?_eq_some he)
      refine ih hmem fun p hp hne u hu => ?_
      refine h (key :: p) (List.cons_prefix_cons.mpr ⟨rfl, hp⟩)
        (fun he => hne (List.cons.inj he).2) u ?_
      rw [at?_cons_table, hw]
      exact hu
    | _ => exact (h [] List.nil_prefix (List.cons_ne_nil _ _).symm _ rfl).elim

theorem HoldsSections.leads (h : HoldsSections es) (hes : EntriesWritten es) (hl : IsLeaf l) :
    Leads l.path (.table es) := by
  have hwritten : (Value.table es).Written := hes
  refine hwritten.leads fun p hp hne w hw => ?_
  rcases hl.prefix_cases hp with heq | rfl | hsection
  · exact absurd heq hne
  · cases hw
    trivial
  · exact h p hsection w hw

theorem entriesWritten_fileLayer (s : Surroundings) (file : String) :
    EntriesWritten (s.fileLayer file).entries := by
  unfold Surroundings.fileLayer
  split
  · trivial
  · split
    · unfold Layer.entries textLayer
      dsimp only
      split
      · next hes =>
        split at hes
        · next hparse =>
          cases hes
          exact Toml.entriesWritten_parse? hparse
        · contradiction
      · trivial
    · trivial

theorem load_eq_ok (h : load layers = .ok settings) :
    readSettings ((layers.map Layer.entries).foldl overlayEntries []) = .ok settings := by
  unfold load at h
  split at h
  · split at h
    · next hread =>
      cases h
      rw [List.foldl_map]
      exact hread
    · contradiction
  · contradiction

/-- A leaf has the value of the last layer that has one, and its default if none has. -/
theorem leaf_of_load (hload : load layers = .ok settings) (hl : IsLeaf l)
    (hleads : ∀ layer ∈ layers, Leads l.path (.table layer.entries)) :
    match (layers.reverse.findSome? fun layer => Value.at? l.path (.table layer.entries)) with
    | some v => l.read v = .ok (l.get settings)
    | none => l.get settings = l.get {} := by
  have hall : ∀ t ∈ layers.map Layer.entries, Leads l.path (.table t) :=
    List.forall_mem_map.mpr hleads
  obtain ⟨hmerged, hat⟩ := at?_foldl (leads_nil l.path) hall
  have hleaf := hl.sound.extracts _ settings hmerged (load_eq_ok hload)
  have hlast :
      ((layers.map Layer.entries).map (Value.at? l.path <| .table ·)).reverse.findSome? id =
        layers.reverse.findSome? fun layer => Value.at? l.path (.table layer.entries) := by
    rw [List.map_map, ← List.map_reverse, List.findSome?_map]
    rfl
  rw [hat, at?_empty l.path_ne_nil] at hleaf
  rw [← hlast]
  generalize (layers.map Layer.entries).map (Value.at? l.path <| .table ·) = values at hleaf ⊢
  cases hfold : values.foldl overlay? none with
  | none =>
    have hnone := none_of_foldl hfold
    rw [Option.or_none] at hnone
    rw [hfold] at hleaf
    rw [hnone]
    exact hleaf
  | some v =>
    rw [hfold] at hleaf
    have hsome := last_of_foldl hfold (hl.sound.rejects v _ hleaf)
    rw [Option.or_none] at hsome
    rw [hsome]
    exact hleaf

namespace Surroundings

/-- The value that a program is given for a setting: the one of a variable, else the one in the
working directory's file, the user's or the system's. -/
def setting? (s : Surroundings) (path : List String) : Option Value :=
  (s.env.setting? path).or
    (s.configPaths.reverse.findSome? fun file =>
      Value.at? path (.table (s.fileLayer file).entries))

/-- Settings are loaded from files whose sections are tables and variables for different leaves. -/
structure Loads (s : Surroundings) (settings : Settings) : Prop where
  loaded : s.loadAll = .ok settings
  sections : ∀ file ∈ s.configPaths, HoldsSections (s.fileLayer file).entries
  environment : s.env.SetsDistinct IsLeafPath

theorem Loads.leaf (h : s.Loads settings) (hl : IsLeaf l) :
    match s.setting? l.path with
    | some v => l.read v = .ok (l.get settings)
    | none => l.get settings = l.get {} := by
  have hpath : IsLeafPath l.path := ⟨l, hl, rfl⟩
  obtain ⟨hleads, hat⟩ := Environment.at?_entries prefixFree_isLeafPath h.environment hpath
  have hleaf := leaf_of_load h.loaded hl fun layer hlayer => by
    rcases List.mem_append.mp hlayer with hlayer | hlayer
    · obtain ⟨file, hfile, rfl⟩ := List.mem_map.mp hlayer
      exact (h.sections file hfile).leads (entriesWritten_fileLayer s file) hl
    · rw [List.mem_singleton.mp hlayer]
      exact hleads
  have henv : Value.at? l.path (.table s.envLayer.entries) = s.env.setting? l.path := hat
  rw [List.reverse_append, List.reverse_singleton, List.singleton_append, List.findSome?_cons,
    henv, ← List.map_reverse, List.findSome?_map] at hleaf
  unfold setting?
  cases hset : s.env.setting? l.path with
  | some v =>
    rw [hset] at hleaf
    exact hleaf
  | none =>
    rw [hset] at hleaf
    exact hleaf

theorem fileLayer_eq {path file text : String} (hfind : s.find? path = some file)
    (hread : s.files.readText [] file = .ok text) (hparse : Toml.parse? text = some es) :
    s.fileLayer path = { file := some file, content := .ok es } := by
  simp [fileLayer, hfind, hread, textLayer, hparse]

def userText : String :=
  "[routing]\nenabled = true\nbias = \"quality\"\n[providers.base_urls]\na = \"u\"\n"

def localText : String := "[routing]\nenabled = false\n[providers.base_urls]\nb = \"v\"\n"

def userPlace : Place :=
  ["home".toList, ".config".toList, "blufio".toList, "blufio.toml".toList]

/-- A file of the user, one in the working directory, and a variable. -/
def twoFiles : Surroundings where
  files := ⟨[(userPlace.take 1, .directory), (userPlace.take 2, .directory),
    (userPlace.take 3, .directory), (userPlace, .file userText.toUTF8),
    (["blufio.toml".toList], .file localText.toUTF8)]⟩
  directory := []
  env := ⟨[("BLUFIO_ROUTING_BIAS", "cost"), ("HOME", "/home")]⟩

def userLayer : Layer where
  file := some "/home/.config/blufio/blufio.toml"
  content := .ok [("providers", .table [("base_urls", .table [("a", .string "u")])]),
    ("routing", .table [("bias", .string "quality"), ("enabled", .bool true)])]

def localLayer : Layer where
  file := some "/blufio.toml"
  content := .ok [("providers", .table [("base_urls", .table [("b", .string "v")])]),
    ("routing", .table [("enabled", .bool false)])]

theorem fileLayers_twoFiles : twoFiles.configPaths.map twoFiles.fileLayer =
    [{ content := .ok [] }, userLayer, localLayer] := by
  have huser : twoFiles.fileLayer "/home/.config/blufio/blufio.toml" = userLayer :=
    fileLayer_eq rfl (FileTree.readText_eq_ok (p := userPlace) rfl rfl rfl)
      (by cbv : Toml.parse? userText = some userLayer.entries)
  have hlocal : twoFiles.fileLayer "blufio.toml" = localLayer :=
    fileLayer_eq rfl (FileTree.readText_eq_ok (p := ["blufio.toml".toList]) rfl rfl rfl)
      (by cbv : Toml.parse? localText = some localLayer.entries)
  have hsystem : twoFiles.fileLayer "/etc/blufio/blufio.toml" = { content := .ok [] } := rfl
  have hpaths : twoFiles.configPaths =
    ["/etc/blufio/blufio.toml", "/home/.config/blufio/blufio.toml", "blufio.toml"] := rfl
  rw [hpaths, List.map_cons, List.map_cons, List.map_cons, List.map_nil, huser, hlocal, hsystem]

/-- Neither file is enough: the addresses come from both, and the variable changes the bias. -/
theorem loads_twoFiles : twoFiles.Loads
    { providers := { baseUrls := [("a", "u"), ("b", "v")] }, routing := { bias := .cost } } where
  loaded := by
    have henv : twoFiles.envLayer =
      { content := .ok [("routing", .table [("bias", .string "cost")])] } := rfl
    rw [loadAll, fileLayers_twoFiles, henv]
    cbv
  sections := by
    have hlayers : ∀ layer ∈ twoFiles.configPaths.map twoFiles.fileLayer,
        HoldsSections layer.entries := by
      rw [fileLayers_twoFiles]
      simp [HoldsSections, sectionPaths, userLayer, localLayer, Layer.entries, Value.at?,
        Entries.get?, Value.IsTable]
    exact fun file hfile => hlayers _ (List.mem_map_of_mem hfile)
  environment := by
    have hbias : Environment.settingPath? "BLUFIO_ROUTING_BIAS" = some ["routing", "bias"] := rfl
    have hhome : Environment.settingPath? "HOME" = none := rfl
    have hleaf : IsLeafPath ["routing", "bias"] := ⟨scalars[7], .inl (List.getElem_mem _), rfl⟩
    constructor
    · simp [twoFiles, hbias, hhome, hleaf]
    · simp [twoFiles, hbias, hhome]

end Surroundings
end TierRouting.Config
