import TierRouting.Proofs.Config.Layers
import TierRouting.Proofs.Config.Schema

/-! One undeclared key in an otherwise good document: what is wrong and where. -/
namespace TierRouting.Config

variable {σ α : Type} {fields : List (Field σ)} {above path valid : List String}
  {key k name : String} {read : Value → Extracted α} {set : σ → α → σ} {es before after : Entries}
  {v : Value} {start s : σ}

/-- A document without what is at the end of a path. -/
def Value.without : List String → Value → Value
  | [key], .table es => .table (es.filter (·.1 != key))
  | key :: path, .table es =>
    .table (es.map fun e => if e.1 = key then (e.1, without path e.2) else e)
  | _, v => v

theorem Value.without_cons (hpath : path ≠ []) (key : String) (es : Entries) :
    Value.without (key :: path) (.table es) =
      .table (es.map fun e => if e.1 = key then (e.1, without path e.2) else e) := by
  obtain ⟨k, path, rfl⟩ := List.exists_cons_of_ne_nil hpath
  rfl

/-- The entries around one of them have other keys. -/
theorem Entries.Sorted.exists_split (hes : es.Sorted) (h : es.get? key = some v) :
    ∃ before after, es = before ++ (key, v) :: after ∧ (∀ e ∈ before, e.1 ≠ key) ∧
      ∀ e ∈ after, e.1 ≠ key := by
  obtain ⟨before, after, rfl⟩ := List.append_of_mem (Entries.mem_of_get? h)
  obtain ⟨-, hafter, hbefore⟩ := List.pairwise_append.mp hes
  refine ⟨before, after, rfl, fun e he heq => ?_, fun e he heq => ?_⟩
  · have hlt := hbefore e he (key, v) List.mem_cons_self
    exact String.lt_irrefl key (heq ▸ hlt)
  · have hlt := (List.pairwise_cons.mp hafter).1 e he
    exact String.lt_irrefl key (heq ▸ hlt)

theorem setEntry_undeclared (h : key ∉ fields.map (·.key)) :
    setEntry fields s (key, v) =
      .error { path := [key], cause := .unknownKey key (fields.map (·.key)) } := by
  have hnone : fields.find? (·.key == key) = none := by
    refine List.find?_eq_none.mpr fun f hf hkey => h ?_
    exact beq_iff_eq.mp hkey ▸ List.mem_map_of_mem hf
  rw [setEntry, hnone]
  rfl

/-- Where all but one of the entries are good, the one that is not gives the error. -/
theorem foldlM_error_of_split {f : Fault} {e : String × Value}
    (hbefore : before.foldlM (setEntry fields) start = .ok s)
    (he : setEntry fields s e = .error f) :
    (before ++ e :: after).foldlM (setEntry fields) start = .error f := by
  rw [List.foldlM_append, hbefore]
  change (e :: after).foldlM (setEntry fields) s = .error f
  rw [List.foldlM_cons, he]
  rfl

/-- With a key that does not belong under `above`, and nothing else amiss, reading reports the key
and the keys that do. -/
def ReportsStray (read : Value → Extracted α) (above : List String) (key : String)
    (valid : List String) : Prop :=
  ∀ v a, Leads (above ++ [key]) v → (v.at? (above ++ [key])).isSome →
    read (v.without (above ++ [key])) = .ok a →
      read v = .error { path := above ++ [key], cause := .unknownKey key valid }

theorem reportsStray_section [Inhabited σ] (hkey : key ∉ fields.map (·.key)) :
    ReportsStray (readSection name fields) [] key (fields.map (·.key)) := by
  rintro _ settings ⟨es, rfl, hsorted, -⟩ hpresent hread
  obtain ⟨w, hw⟩ := Option.isSome_iff_exists.mp hpresent
  rw [List.nil_append, at?_cons_table] at hw
  obtain ⟨v, hv, -⟩ := Option.bind_eq_some_iff.mp hw
  obtain ⟨before, after, rfl, hbefore, hafter⟩ := hsorted.exists_split hv
  have hrest : (before ++ (key, v) :: after).filter (·.1 != key) = before ++ after := by
    rw [List.filter_append, List.filter_cons_of_neg (by simp),
      List.filter_eq_self.mpr fun e he => bne_iff_ne.mpr (hbefore e he),
      List.filter_eq_self.mpr fun e he => bne_iff_ne.mpr (hafter e he)]
  have hfold : (before ++ after).foldlM (setEntry fields) default = .ok settings :=
    hrest ▸ hread
  rw [List.foldlM_append, bind_eq_ok] at hfold
  obtain ⟨s, hs, -⟩ := hfold
  exact foldlM_error_of_split hs (setEntry_undeclared hkey)

theorem ReportsStray.under [Inhabited σ] (h : ReportsStray read above key valid)
    (hfield : fields.find? (·.key == k) = some (field k read set)) :
    ReportsStray (readSection name fields) (k :: above) key valid := by
  rintro _ settings ⟨es, rfl, hsorted, hbelow⟩ hpresent hread
  obtain ⟨w, hw⟩ := Option.isSome_iff_exists.mp hpresent
  rw [List.cons_append, at?_cons_table] at hw
  obtain ⟨v, hv, hat⟩ := Option.bind_eq_some_iff.mp hw
  have hleads := hbelow v hv
  obtain ⟨before, after, rfl, hbefore, hafter⟩ := hsorted.exists_split hv
  have hrest : Value.without (k :: above ++ [key]) (.table (before ++ (k, v) :: after)) =
      .table (before ++ (k, v.without (above ++ [key])) :: after) := by
    rw [List.cons_append, Value.without_cons (List.concat_ne_nil key above), List.map_append,
      List.map_cons, if_pos rfl, List.map_congr_left fun e he => if_neg (hbefore e he),
      List.map_congr_left fun e he => if_neg (hafter e he), List.map_id', List.map_id']
  have hfold : (before ++ (k, v.without (above ++ [key])) :: after).foldlM (setEntry fields)
      default = .ok settings := by
    rw [hrest] at hread
    exact hread
  -- Without the key the section is read to its end, so past all that stands before the entry.
  rw [List.foldlM_append, bind_eq_ok] at hfold
  obtain ⟨s, hs, hfold⟩ := hfold
  rw [List.foldlM_cons, bind_eq_ok] at hfold
  obtain ⟨t, ht, -⟩ := hfold
  rw [setEntry, hfield, under_eq_ok] at ht
  obtain ⟨a, ha, -⟩ := map_eq_ok.mp ht
  have herror := h v a hleads (hat ▸ rfl) ha
  refine foldlM_error_of_split hs ?_
  rw [setEntry, hfield]
  simp only [field, herror]
  rfl

/-- The sections with the keys that belong there. -/
def recordKeys : List (List String × List String) :=
  [(["agent"], agentFields.map (·.key)), (["providers"], providerFields.map (·.key)),
    (["routing"], routingFields.map (·.key)), (["routing", "tiers"], tierFields.map (·.key)),
    (["routing", "budget"], budgetFields.map (·.key)),
    (["routing", "analytics"], analyticsFields.map (·.key))]

theorem reportsStray_settings (hmem : (above, valid) ∈ recordKeys) (hkey : key ∉ valid) :
    ReportsStray (readSection "BlufioConfig" settingsFields) above key valid := by
  simp only [recordKeys, List.mem_cons, Prod.mk.injEq, List.not_mem_nil, or_false] at hmem
  rcases hmem with ⟨rfl, rfl⟩ | ⟨rfl, rfl⟩ | ⟨rfl, rfl⟩ | ⟨rfl, rfl⟩ | ⟨rfl, rfl⟩ | ⟨rfl, rfl⟩
  · exact (reportsStray_section hkey).under rfl
  · exact (reportsStray_section hkey).under rfl
  · exact (reportsStray_section hkey).under rfl
  · exact .under (.under (reportsStray_section hkey) rfl) rfl
  · exact .under (.under (reportsStray_section hkey) rfl) rfl
  · exact .under (.under (reportsStray_section hkey) rfl) rfl

/-- A document would be good without one key, which stands in a section where it does not belong. -/
structure HasStray (es : Entries) (above : List String) (key : String) (valid : List String) :
    Prop where
  mem : (above, valid) ∈ recordKeys
  undeclared : key ∉ valid
  tables : ∀ p, p <+: above → ∀ v, Value.at? p (.table es) = some v → v.IsTable
  present : (Value.at? (above ++ [key]) (.table es)).isSome
  good : ∃ settings, readSection "BlufioConfig" settingsFields
    ((Value.table es).without (above ++ [key])) = .ok settings

theorem HasStray.above_ne_nil (h : HasStray es above key valid) : above ≠ [] := by
  have hall : ∀ p ∈ recordKeys.map (·.1), p ≠ [] := by decide
  exact hall above (List.mem_map_of_mem h.mem)

theorem HasStray.readSettings (h : HasStray es above key valid) (hes : EntriesWritten es) :
    readSettings es = .error { path := above ++ [key], cause := .unknownKey key valid } := by
  have hwritten : (Value.table es).Written := hes
  have hleads : Leads (above ++ [key]) (.table es) := by
    refine hwritten.leads fun p hp hne v hv => ?_
    rcases List.prefix_concat_iff.mp hp with heq | hprefix
    · exact absurd heq hne
    · exact h.tables p hprefix v hv
  obtain ⟨settings, hgood⟩ := h.good
  exact reportsStray_settings h.mem h.undeclared (.table es) settings hleads h.present hgood

end TierRouting.Config
