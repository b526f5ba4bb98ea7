import TierRouting.Proofs.Config.KeyPlaces
import TierRouting.Proofs.Config.StrayKeys
import TierRouting.Proofs.Files.WorkingDirectory

/-! The report of an undeclared key in the file of the working directory. Its mark is looked for
below a header that names the key behind the section, so there is hardly ever one. -/
namespace TierRouting.Config

variable {s : Surroundings} {text key : String} {above valid : List String} {es : Entries}
  {f : Fault}

theorem Environment.entries_eq_nil {env : Environment}
    (h : ∀ b ∈ env.bindings, settingPath? b.1 = none) : env.entries = [] := by
  have hnone : ∀ t ∈ env.bindings.map tableOf, t = [] := by
    refine List.forall_mem_map.mpr fun b hb => ?_
    have hpath : path? b.1 = none := Option.map_eq_none_iff.mp (h b hb)
    rw [tableOf, hpath]
  rw [entries_eq]
  generalize env.bindings.map tableOf = tables at hnone
  induction tables with
  | nil => rfl
  | cons t tables ih =>
    obtain rfl := hnone t List.mem_cons_self
    exact ih fun u hu => hnone u (List.mem_cons_of_mem _ hu)

theorem load_error {layers : List Layer} (hfaults : layers.reverse.filterMap Layer.fault? = [])
    (hread : readSettings (merged layers) = .error f) :
    load layers = .error [{ f with file := originOf layers f.path }] := by
  rw [load, hfaults, hread]

theorem merged_append_of_quiet {quiet layers : List Layer}
    (hquiet : ∀ l ∈ quiet, l = { content := .ok [] }) : merged (quiet ++ layers) = merged layers := by
  induction quiet with
  | nil => rfl
  | cons l quiet ih =>
    obtain rfl := hquiet l List.mem_cons_self
    exact ih fun l hl => hquiet l (List.mem_cons_of_mem _ hl)

/-- Layers that set nothing have no part in what goes wrong. -/
theorem load_error_of_quiet {layers quiet : List Layer} {file : String}
    (hlayers : layers = quiet ++
      [{ file := some file, content := .ok es }, { content := .ok [] }])
    (hquiet : ∀ l ∈ quiet, l = { content := .ok [] }) (hsorted : es.Sorted)
    (hread : readSettings es = .error f) (hpath : f.path ≠ [])
    (hat : (Value.at? f.path (.table es)).isSome) :
    load layers = .error [{ f with file := some file }] := by
  have hmerged : merged layers = es := by
    rw [hlayers, merged_append_of_quiet hquiet]
    exact overlayEntries_of_sorted (a := []) hsorted
  have hfaults : layers.reverse.filterMap Layer.fault? = [] := by
    have hnone : ∀ l ∈ quiet, l.fault? = none := by
      intro l hl
      rw [hquiet l hl]
      rfl
    simpa [hlayers, Layer.fault?] using hnone
  have horigin : originOf layers f.path = some file := by
    have hnone : Value.at? f.path (.table []) = none := at?_empty hpath
    simp [hlayers, originOf, Layer.entries, hnone, hat]
  rw [load_error hfaults (hmerged ▸ hread), horigin]

/-- The mark is looked for in the source that the fault comes from. -/
theorem mark?_cons {file : String} (key text : String) (others : List (String × String))
    (hfile : f.file = some file) :
    mark? f key ((file, text) :: others) =
      (keyOffset? text f.path key).map (⟨file, ·, key.utf8ByteSize⟩) := by
  unfold mark?
  rw [List.find?_cons_of_pos (by simp [hfile])]
  simp only [bind, Option.bind_some]
  cases keyOffset? text f.path key <;> rfl

namespace Surroundings

/-- The full name of the file with settings in the working directory. -/
def localFile (s : Surroundings) : String := placePath (s.directory ++ ["blufio.toml".toList])

/-- Settings come from the file in the working directory and from nowhere else. -/
structure HasOnly (s : Surroundings) (text : String) : Prop where
  place : s.files.IsPlace s.directory
  named : FileTree.checkName s.localFile = .ok ()
  file : s.files.get? (s.directory ++ ["blufio.toml".toList]) = some (.file text.toUTF8)
  system : s.find? "/etc/blufio/blufio.toml" = none
  user : ∀ path ∈ s.userPath?, s.find? path = none
  environment : ∀ b ∈ s.env.bindings, Environment.settingPath? b.1 = none

theorem isName_local : Path.IsName "blufio.toml".toList where
  ne_nil := by decide
  slash_not_mem := by decide
  ne_here := by decide
  ne_up := by decide
  short := by decide

namespace HasOnly

variable (h : s.HasOnly text)
include h

theorem join_local : Path.join s.workingDirectory "blufio.toml" = s.localFile :=
  Path.join_placePath h.place.names isName_local

theorem readText_local : s.files.readText s.directory "blufio.toml" = .ok text :=
  FileTree.readText_ofList isName_local rfl h.file

theorem find?_local : s.find? "blufio.toml" = some s.localFile := by
  have hfile : s.files.isFile s.directory "blufio.toml" = true :=
    FileTree.isFile_of_readText h.readText_local
  have hjoin : Path.join (placePath s.directory) "blufio.toml" = s.localFile := h.join_local
  have hrelative : Path.isAbsolute "blufio.toml" = false := rfl
  rw [find?, hrelative, if_neg Bool.false_ne_true]
  cases hreverse : s.directory.reverse with
  | nil =>
    rw [List.reverse_eq_nil_iff] at hreverse
    rw [hreverse] at hfile hjoin
    rw [searchUp?, if_pos hfile, ← hjoin]
    rfl
  | cons name upper =>
    rw [searchUp?, ← hreverse, List.reverse_reverse, if_pos hfile, hjoin]

theorem fileLayer_local (hparse : Toml.parse? text = some es) :
    s.fileLayer "blufio.toml" = { file := some s.localFile, content := .ok es } :=
  fileLayer_eq h.find?_local
    (FileTree.readText_placePath h.place isName_local h.named h.file) hparse

/-- What is wrong with the file is wrong with the settings, and is put down to the file. -/
theorem loadAll_error (hparse : Toml.parse? text = some es) (hread : readSettings es = .error f)
    (hpath : f.path ≠ []) (hat : (Value.at? f.path (.table es)).isSome) :
    s.loadAll = .error [{ f with file := some s.localFile }] := by
  have hsystem : s.fileLayer "/etc/blufio/blufio.toml" = { content := .ok [] } := by
    rw [fileLayer, h.system]
  have huser : ∀ path ∈ s.userPath?, s.fileLayer path = { content := .ok [] } := by
    intro path hpath
    rw [fileLayer, h.user path hpath]
  have henv : s.envLayer = { content := .ok [] } := by
    rw [envLayer, Environment.entries_eq_nil h.environment]
  have hquiet : ∀ l ∈ (["/etc/blufio/blufio.toml"] ++ s.userPath?.toList).map s.fileLayer,
      l = { content := .ok [] } := by
    intro l hl
    obtain ⟨path, hpath, rfl⟩ := List.mem_map.mp hl
    rcases List.mem_append.mp hpath with hpath | hpath
    · rw [List.mem_singleton.mp hpath, hsystem]
    · exact huser path (Option.mem_toList.mp hpath)
  have hsorted : es.Sorted := (entriesWritten_iff.mp (Toml.entriesWritten_parse? hparse)).1
  refine load_error_of_quiet ?_ hquiet hsorted hread hpath hat
  rw [configPaths, List.map_append, List.map_singleton, h.fileLayer_local hparse, henv,
    List.append_assoc]
  rfl

theorem sources_cons : ∃ others, s.sources = (s.localFile, text) :: others := by
  have hpaths : s.configPaths.reverse =
      "blufio.toml" :: (["/etc/blufio/blufio.toml"] ++ s.userPath?.toList).reverse := by
    rw [configPaths, List.reverse_append, List.reverse_singleton, List.singleton_append]
  rw [sources, hpaths, List.filterMap_cons, h.readText_local, h.join_local]
  exact ⟨_, rfl⟩

/-- The one report of an undeclared key, and its mark in the file. -/
theorem loadValid_error (hparse : Toml.parse? text = some es)
    (hstray : HasStray es above key valid) :
    s.loadValid = .error [.unknownKey key (suggest? key valid) valid
      ((keyOffset? text (above ++ [key]) key).map (⟨s.localFile, ·, key.utf8ByteSize⟩))] := by
  have hread := hstray.readSettings (Toml.entriesWritten_parse? hparse)
  have hload := h.loadAll_error hparse hread (List.concat_ne_nil key above) hstray.present
  obtain ⟨others, hsources⟩ := h.sources_cons
  have hmark : mark? ⟨above ++ [key], .unknownKey key valid, some s.localFile⟩ key s.sources =
      (keyOffset? text (above ++ [key]) key).map (⟨s.localFile, ·, key.utf8ByteSize⟩) := by
    rw [hsources]
    exact mark?_cons key text others rfl
  rw [loadValid, hload, ← hmark]
  rfl

end HasOnly

/-- An undeclared key gives one error, which names the key, and the keys that belong in its place.
A mark is looked for below the first text that looks like a header of the section and the key
together, so mostly there is none. Below a header of the section alone, the key would be found. -/
theorem stray_key_reported (hs : s.HasOnly text) (hparse : Toml.parse? text = some es)
    (hstray : HasStray es above key valid) :
    ∃ mark, s.loadValid = .error [.unknownKey key (suggest? key valid) valid mark] ∧
      (¬ header (above ++ [key]) <:+: text.toList → mark = none) ∧
      (∀ m, mark = some m ↔ ∃ o, SetBelow text.toList (above ++ [key]) key.toList o ∧
        m = ⟨s.localFile, o, key.utf8ByteSize⟩) ∧
      ∀ o, SetBelow text.toList above key.toList o →
        keyOffset? text above key = some o ∧ ∃ before after,
          text.toList = before ++ key.toList ++ after ∧ Text.byteLength before = o := by
  have hnested : above ++ [key] ≠ [] := List.concat_ne_nil key above
  have hmarks : ∀ m, (keyOffset? text (above ++ [key]) key).map
      (⟨s.localFile, ·, key.utf8ByteSize⟩) = some m ↔
        ∃ o, SetBelow text.toList (above ++ [key]) key.toList o ∧
          m = (⟨s.localFile, o, key.utf8ByteSize⟩ : Mark) := by
    intro m
    simp only [Option.map_eq_some_iff, keyOffset?_eq_some_iff hnested, @eq_comm _ _ m]
  refine ⟨_, hs.loadValid_error hparse hstray, fun habsent => ?_, hmarks, fun o hset =>
    ⟨(keyOffset?_eq_some_iff hstray.above_ne_nil).mpr hset, SetBelow.exists_append hset⟩⟩
  refine Option.eq_none_iff_forall_ne_some.mpr fun m hm => habsent ?_
  obtain ⟨o, hset, -⟩ := (hmarks m).mp hm
  exact SetBelow.header_infix hset

/-- A document with one letter of a key in the wrong place. -/
def misspeltText : String := "[routing]\nenabeld = true\n"

def misspelt : Surroundings where
  files := ⟨[(["blufio.toml".toList], .file misspeltText.toUTF8)]⟩
  directory := []
  env := ⟨[("HOME", "/home")]⟩

theorem hasOnly_misspelt : misspelt.HasOnly misspeltText where
  place := ⟨fun _ hn => absurd hn List.not_mem_nil,
    fun _ hq hprefix => absurd (List.prefix_nil.mp hprefix) hq⟩
  named := rfl
  file := rfl
  system := rfl
  user path hpath := by
    cases hpath
    rfl
  environment := by
    have hhome : Environment.settingPath? "HOME" = none := rfl
    simp [misspelt, hhome]

def misspeltEntries : Entries := [("routing", .table [("enabeld", .bool true)])]

theorem parse?_misspelt : Toml.parse? misspeltText = some misspeltEntries := by cbv

theorem hasStray_misspelt :
    HasStray misspeltEntries ["routing"] "enabeld" (routingFields.map (·.key)) where
  mem := by simp [recordKeys]
  undeclared := by decide
  tables := by
    intro p hp v hv
    have hinits : p ∈ [[], ["routing"]] := (List.mem_inits _ _).mpr hp
    rcases List.mem_pair.mp hinits with rfl | rfl
    · cases hv
      trivial
    · cases hv
      trivial
  present := rfl
  good := ⟨_, rfl⟩

theorem setBelow_misspelt : SetBelow misspeltText.toList ["routing"] "enabeld".toList 10 := by
  refine ⟨[], "\nenabeld = true\n".toList, ⟨rfl, fun _ _ _ => Nat.zero_le _⟩, ["\n".toList],
    "enabeld = true\n".toList, [], rfl, ?_, rfl⟩
  exact reaches_cons.mpr (by decide)

/-- The misspelt key is reported without a mark, though it is where its section says. -/
theorem stray_key_reported_misspelt :
    misspelt.loadValid = .error [.unknownKey "enabeld"
      (suggest? "enabeld" (routingFields.map (·.key))) (routingFields.map (·.key)) none] ∧
      keyOffset? misspeltText ["routing"] "enabeld" = some 10 := by
  obtain ⟨mark, hload, hnone, -, hfound⟩ := stray_key_reported hasOnly_misspelt
    parse?_misspelt hasStray_misspelt
  rw [hnone (by decide)] at hload
  exact ⟨hload, (hfound 10 setBelow_misspelt).1⟩

/-- A key in its section does not have to be marked. -/
theorem not_forall_stray_key_marked : ¬ ∀ s text es above key valid o, HasOnly s text →
    Toml.parse? text = some es → HasStray es above key valid →
      SetBelow text.toList above key.toList o →
        s.loadValid = .error [.unknownKey key (suggest? key valid) valid
          (some ⟨s.localFile, o, key.utf8ByteSize⟩)] := by
  intro h
  have hmarked := h _ _ _ _ _ _ _ hasOnly_misspelt parse?_misspelt hasStray_misspelt
    setBelow_misspelt
  have hnone : keyOffset? misspeltText ["routing", "enabeld"] "enabeld" = none := by decide
  rw [hasOnly_misspelt.loadValid_error parse?_misspelt hasStray_misspelt] at hmarked
  have hmark := (ConfigError.unknownKey.inj (List.cons.inj (Except.error.inj hmarked)).1).2.2.2
  rw [List.singleton_append, hnone] at hmark
  contradiction

end Surroundings
end TierRouting.Config
