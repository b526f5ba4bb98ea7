import TierRouting.Proofs.Config.Overlay
import TierRouting.Toml.Parser

/-! A document is read as values that it can spell, in tables that are sorted, also those inside
other tables and arrays. -/
namespace TierRouting.Config

mutual

/-- A document can spell the value, and every table in it is sorted. -/
def Value.Written : Value → Prop
  | .unit => False
  | .char _ => False
  | .unsigned _ => False
  | .array items => ItemsWritten items
  | .table es => EntriesWritten es
  | _ => True

def ItemsWritten : List Value → Prop
  | [] => True
  | v :: r => v.Written ∧ ItemsWritten r

def EntriesWritten : List (String × Value) → Prop
  | [] => True
  | (k, v) :: r => (∀ e ∈ r, k < e.1) ∧ v.Written ∧ EntriesWritten r

end

variable {es : Entries} {k : String} {v : Value} {items : List Value}

theorem itemsWritten_iff : ItemsWritten items ↔ ∀ v ∈ items, v.Written := by
  induction items with
  | nil => simp [ItemsWritten]
  | cons v items ih => rw [ItemsWritten, ih, List.forall_mem_cons]

theorem entriesWritten_iff : EntriesWritten es ↔ es.Sorted ∧ ∀ e ∈ es, e.2.Written := by
  induction es with
  | nil => simp [EntriesWritten, Entries.Sorted]
  | cons e es ih =>
    rw [EntriesWritten, ih, Entries.Sorted, Entries.Sorted, List.pairwise_cons,
      List.forall_mem_cons]
    exact ⟨fun ⟨hk, hv, hs, he⟩ => ⟨⟨hk, hs⟩, hv, he⟩, fun ⟨⟨hk, hs⟩, hv, he⟩ => ⟨hk, hv, hs, he⟩⟩

theorem EntriesWritten.insert (h : EntriesWritten es) (hv : v.Written) (k : String) :
    EntriesWritten (es.insert k v) := by
  rw [entriesWritten_iff] at h ⊢
  refine ⟨h.1.insert k v, fun e he => ?_⟩
  rcases Entries.mem_insert he with rfl | he
  · exact hv
  · exact h.2 e he

end TierRouting.Config

namespace TierRouting.Toml

open Config

mutual

def Node.Written : Node → Prop
  | .leaf v => v.Written
  | .table _ nodes => NodesWritten nodes
  | .tables items => TablesWritten items

/-- Every leaf has a value that a document can spell. -/
def NodesWritten : List (String × Node) → Prop
  | [] => True
  | (_, n) :: r => n.Written ∧ NodesWritten r

def TablesWritten : List (List (String × Node)) → Prop
  | [] => True
  | nodes :: r => NodesWritten nodes ∧ TablesWritten r

end

variable {nodes nodes' : Nodes} {key : String} {n : Node} {v : Value} {keys path : List String}
  {cs rest : List Char}

theorem nodesWritten_iff : NodesWritten nodes ↔ ∀ m ∈ nodes, m.2.Written := by
  induction nodes with
  | nil => simp [NodesWritten]
  | cons m nodes ih => rw [NodesWritten, ih, List.forall_mem_cons]

theorem tablesWritten_iff {items : List Nodes} :
    TablesWritten items ↔ ∀ nodes ∈ items, NodesWritten nodes := by
  induction items with
  | nil => simp [TablesWritten]
  | cons nodes items ih => rw [TablesWritten, ih, List.forall_mem_cons]

theorem TablesWritten.getLastD {items : List Nodes} (h : TablesWritten items) :
    NodesWritten (items.getLastD []) := by
  rw [tablesWritten_iff] at h
  rw [List.getLastD_eq_getLast?]
  cases hlast : items.getLast? with
  | none => trivial
  | some nodes => exact h nodes (List.mem_of_getLast? hlast)

theorem TablesWritten.concat {items : List Nodes} (h : TablesWritten items)
    (hnodes : NodesWritten nodes) : TablesWritten (items ++ [nodes]) := by
  rw [tablesWritten_iff] at h ⊢
  exact List.forall_mem_append.mpr ⟨h, List.forall_mem_singleton.mpr hnodes⟩

theorem TablesWritten.dropLast {items : List Nodes} (h : TablesWritten items) :
    TablesWritten items.dropLast := by
  rw [tablesWritten_iff] at h ⊢
  exact fun nodes hnodes => h nodes ((List.dropLast_subset items) hnodes)

theorem NodesWritten.get? (h : NodesWritten nodes) (hn : nodes.get? key = some n) : n.Written := by
  obtain ⟨m, hm, rfl⟩ := Option.map_eq_some_iff.mp hn
  exact nodesWritten_iff.mp h m (List.mem_of_find?_eq_some hm)

theorem NodesWritten.set (h : NodesWritten nodes) (hn : n.Written) (key : String) :
    NodesWritten (nodes.set key n) := by
  rw [nodesWritten_iff] at h ⊢
  intro m hm
  rcases List.mem_append.mp hm with hm | hm
  · exact h m (List.mem_filter.mp hm).1
  · rw [List.mem_singleton.mp hm]
    exact hn

theorem NodesWritten.within {dotted : Bool} {f : TableKind → Nodes → Option Nodes}
    (hf : ∀ kind inner inner', NodesWritten inner → f kind inner = some inner' →
      NodesWritten inner')
    (h : NodesWritten nodes) {kind : TableKind}
    (hwithin : Nodes.within dotted f path kind nodes = some nodes') : NodesWritten nodes' := by
  induction path generalizing kind nodes nodes' with
  | nil => exact hf kind nodes nodes' h hwithin
  | cons key path ih =>
    rw [Nodes.within] at hwithin
    split at hwithin
    · obtain ⟨inner, hinner, hset⟩ := Option.bind_eq_some_iff.mp hwithin
      cases hset
      have hempty : NodesWritten [] := trivial
      have hnew := ih hempty hinner
      exact h.set (n := .table _ inner) hnew key
    · contradiction
    · next inner hget =>
      split at hwithin
      · contradiction
      · obtain ⟨inner', hinner, rfl⟩ := Option.map_eq_some_iff.mp hwithin
        have hnew := ih (h.get? hget) hinner
        exact h.set (n := .table _ inner') hnew key
    · next items hget =>
      obtain ⟨inner', hinner, rfl⟩ := Option.map_eq_some_iff.mp hwithin
      have hitems : TablesWritten items := h.get? hget
      have hnew := hitems.dropLast.concat (ih hitems.getLastD hinner)
      exact h.set (n := .tables _) hnew key

theorem NodesWritten.addKey (h : NodesWritten nodes) (hv : v.Written)
    (hadd : nodes.addKey keys v = some nodes') : NodesWritten nodes' := by
  unfold Nodes.addKey at hadd
  split at hadd
  · contradiction
  · refine h.within (fun kind inner inner' hinner hset => ?_) hadd
    split at hset
    · contradiction
    · split at hset
      · contradiction
      · cases hset
        exact hinner.set (n := .leaf v) hv _

theorem NodesWritten.openTable (h : NodesWritten nodes)
    (hopen : nodes.openTable path = some nodes') : NodesWritten nodes' := by
  unfold Nodes.openTable at hopen
  split at hopen
  · contradiction
  · refine h.within (fun kind inner inner' hinner hset => ?_) hopen
    split at hset
    · cases hset
      exact hinner.set (n := .table .header []) trivial _
    · next below hget =>
      cases hset
      have hbelow : NodesWritten below := hinner.get? hget
      exact hinner.set (n := .table .header below) hbelow _
    · contradiction

theorem NodesWritten.openElement (h : NodesWritten nodes)
    (hopen : nodes.openElement path = some nodes') : NodesWritten nodes' := by
  unfold Nodes.openElement at hopen
  split at hopen
  · contradiction
  · refine h.within (fun kind inner inner' hinner hset => ?_) hopen
    split at hset
    · cases hset
      exact hinner.set (n := .tables [[]]) ⟨trivial, trivial⟩ _
    · next items hget =>
      cases hset
      have hitems : TablesWritten items := hinner.get? hget
      have hempty : NodesWritten [] := trivial
      exact hinner.set (n := .tables _) (hitems.concat hempty) _
    · contradiction

mutual

theorem written_value (n : Node) (h : n.Written) : n.value.Written := by
  match n with
  | .leaf v => exact h
  | .table kind nodes => exact entriesWritten_nodesEntries nodes h
  | .tables items => exact itemsWritten_tablesValues items h

theorem entriesWritten_nodesEntries (nodes : List (String × Node)) (h : NodesWritten nodes) :
    EntriesWritten (nodesEntries nodes) := by
  match nodes with
  | [] => trivial
  | (key, n) :: nodes =>
    rw [nodesEntries]
    exact (entriesWritten_nodesEntries nodes h.2).insert (written_value n h.1) key

theorem itemsWritten_tablesValues (items : List (List (String × Node))) (h : TablesWritten items) :
    ItemsWritten (tablesValues items) := by
  match items with
  | [] => trivial
  | nodes :: items =>
    exact ⟨entriesWritten_nodesEntries nodes h.1, itemsWritten_tablesValues items h.2⟩

end

theorem entriesWritten_inlineEntries {pairs : List (List String × Value)} {es : Entries}
    (hpairs : ∀ p ∈ pairs, p.2.Written) (h : inlineEntries pairs = some es) :
    EntriesWritten es := by
  obtain ⟨nodes, hnodes, rfl⟩ := Option.map_eq_some_iff.mp h
  refine entriesWritten_nodesEntries nodes ?_
  have hfold (start : Nodes) (hstart : NodesWritten start)
      (hadd : pairs.foldlM (fun (nodes : Nodes) (keys, v) => nodes.addKey keys v) start =
        some nodes) : NodesWritten nodes := by
    clear hnodes h
    induction pairs generalizing start with
    | nil =>
      cases hadd
      exact hstart
    | cons p pairs ih =>
      obtain ⟨next, hnext, hrest⟩ := Option.bind_eq_some_iff.mp hadd
      exact ih (fun q hq => hpairs q (List.mem_cons_of_mem p hq)) next
        (hstart.addKey (hpairs p List.mem_cons_self) hnext) hrest
  exact hfold [] trivial hnodes

theorem written_readMoment (h : readMoment cs = some (v, rest)) : v.Written := by
  obtain ⟨m, -, hm⟩ := Option.map_eq_some_iff.mp h
  cases hm
  exact ⟨nofun, trivial, trivial⟩

theorem written_inInt64 {n : Int} (h : inInt64 n = some v) : v.Written := by
  unfold inInt64 at h
  split at h
  · cases h
    trivial
  · contradiction

theorem written_finiteFloat? {w : Decimal.Written} (h : finiteFloat? w = some v) : v.Written := by
  unfold finiteFloat? at h
  dsimp only at h
  split at h
  · contradiction
  · cases h
    trivial

theorem written_of_map {o : Option Value} {r : List Char} (ho : ∀ w, o = some w → w.Written)
    (h : o.map (·, r) = some (v, rest)) : v.Written := by
  obtain ⟨w, hw, hv⟩ := Option.map_eq_some_iff.mp h
  cases hv
  exact ho _ hw

theorem written_readInBase {base : Nat} {p : Char → Bool}
    (h : readInBase base p cs = some (v, rest)) : v.Written := by
  obtain ⟨digits, -, hmap⟩ := Option.bind_eq_some_iff.mp h
  exact written_of_map (fun _ => written_inInt64) hmap

theorem written_readSigned {sign : Option Char} (h : readSigned sign cs = some (v, rest)) :
    v.Written := by
  unfold readSigned at h
  split at h
  · cases h
    trivial
  · cases h
    trivial
  · obtain ⟨whole, -, h⟩ := Option.bind_eq_some_iff.mp h
    dsimp only at h
    split at h
    · obtain ⟨fraction, -, h⟩ := Option.bind_eq_some_iff.mp h
      split at h
      · obtain ⟨e, -, h⟩ := Option.bind_eq_some_iff.mp h
        exact written_of_map (fun _ => written_finiteFloat?) h
      · exact written_of_map (fun _ => written_finiteFloat?) h
    · split at h
      · obtain ⟨e, -, h⟩ := Option.bind_eq_some_iff.mp h
        exact written_of_map (fun _ => written_finiteFloat?) h
      · exact written_of_map (fun _ => written_inInt64) h

theorem written_readNumber (h : readNumber cs = some (v, rest)) : v.Written := by
  unfold readNumber at h
  split at h
  · exact written_readInBase h
  · exact written_readInBase h
  · exact written_readInBase h
  · exact written_readSigned h

theorem written_readWord (h : readWord cs = some (v, rest)) : v.Written := by
  unfold readWord at h
  split at h
  · cases h
    trivial
  · cases h
    trivial
  · split at h
    · next hmoment =>
      cases h
      exact written_readMoment hmoment
    · exact written_readNumber h

/-- What is read within so many steps can be spelled: values, items, and the values of pairs. -/
theorem written_read (steps : Nat) :
    (∀ depth cs v rest, readValue steps depth cs = some (v, rest) → v.Written) ∧
    (∀ depth cs items rest, readItems steps depth cs = some (items, rest) → ItemsWritten items) ∧
    ∀ depth cs pairs rest, readPairs steps depth cs = some (pairs, rest) →
      ∀ p ∈ pairs, p.2.Written := by
  induction steps with
  | zero => exact ⟨nofun, nofun, nofun⟩
  | succ steps ih =>
    obtain ⟨ihvalue, ihitems, ihpairs⟩ := ih
    refine ⟨fun depth cs v rest h => ?_, fun depth cs items rest h => ?_,
      fun depth cs pairs rest h => ?_⟩
    · unfold readValue at h
      split at h
      · obtain ⟨s, -, hs⟩ := Option.map_eq_some_iff.mp h
        cases hs
        trivial
      · obtain ⟨s, -, hs⟩ := Option.map_eq_some_iff.mp h
        cases hs
        trivial
      · split at h
        · obtain ⟨⟨items, r⟩, hitems, h⟩ := Option.map_eq_some_iff.mp h
          cases h
          exact ihitems _ _ _ _ hitems
        · contradiction
      · split at h
        · split at h
          · cases h
            trivial
          · obtain ⟨⟨pairs, r⟩, hpairs, h⟩ := Option.bind_eq_some_iff.mp h
            obtain ⟨es, hes, h⟩ := Option.bind_eq_some_iff.mp h
            cases h
            exact entriesWritten_inlineEntries (ihpairs _ _ _ _ hpairs) hes
        · contradiction
      · exact written_readWord h
    · unfold readItems at h
      split at h
      · cases h
        trivial
      · obtain ⟨⟨v, r⟩, hv, h⟩ := Option.bind_eq_some_iff.mp h
        have hwritten := ihvalue _ _ _ _ hv
        dsimp only at h
        split at h
        · obtain ⟨⟨later, r⟩, hlater, h⟩ := Option.bind_eq_some_iff.mp h
          cases h
          exact ⟨hwritten, ihitems _ _ _ _ hlater⟩
        · cases h
          exact ⟨hwritten, trivial⟩
        · contradiction
    · rw [readPairs] at h
      obtain ⟨⟨keys, r⟩, -, h⟩ := Option.bind_eq_some_iff.mp h
      obtain ⟨r, -, h⟩ := Option.bind_eq_some_iff.mp h
      obtain ⟨⟨v, r⟩, hv, h⟩ := Option.bind_eq_some_iff.mp h
      have hwritten := ihvalue _ _ _ _ hv
      dsimp only at h
      split at h
      · obtain ⟨⟨later, r⟩, hlater, h⟩ := Option.bind_eq_some_iff.mp h
        cases h
        exact List.forall_mem_cons.mpr ⟨hwritten, ihpairs _ _ _ _ hlater⟩
      · cases h
        exact List.forall_mem_singleton.mpr hwritten
      · contradiction

theorem NodesWritten.readLine {current next : List String} (h : NodesWritten nodes)
    (hline : readLine current nodes cs = some (next, nodes', rest)) : NodesWritten nodes' := by
  unfold Toml.readLine at hline
  split at hline
  · obtain ⟨⟨path, r⟩, -, hline⟩ := Option.bind_eq_some_iff.mp hline
    obtain ⟨r, -, hline⟩ := Option.bind_eq_some_iff.mp hline
    obtain ⟨r, -, hline⟩ := Option.bind_eq_some_iff.mp hline
    obtain ⟨opened, hopen, hline⟩ := Option.bind_eq_some_iff.mp hline
    cases hline
    exact h.openElement hopen
  · obtain ⟨⟨path, r⟩, -, hline⟩ := Option.bind_eq_some_iff.mp hline
    obtain ⟨r, -, hline⟩ := Option.bind_eq_some_iff.mp hline
    obtain ⟨opened, hopen, hline⟩ := Option.bind_eq_some_iff.mp hline
    cases hline
    exact h.openTable hopen
  · obtain ⟨r, -, hline⟩ := Option.map_eq_some_iff.mp hline
    cases hline
    exact h
  · obtain ⟨r, -, hline⟩ := Option.map_eq_some_iff.mp hline
    cases hline
    exact h
  · obtain ⟨r, -, hline⟩ := Option.map_eq_some_iff.mp hline
    cases hline
    exact h
  · obtain ⟨⟨keys, r⟩, -, hline⟩ := Option.bind_eq_some_iff.mp hline
    obtain ⟨r, -, hline⟩ := Option.bind_eq_some_iff.mp hline
    obtain ⟨⟨v, r⟩, hv, hline⟩ := Option.bind_eq_some_iff.mp hline
    obtain ⟨r, -, hline⟩ := Option.bind_eq_some_iff.mp hline
    obtain ⟨added, hadd, hline⟩ := Option.bind_eq_some_iff.mp hline
    cases hline
    have hwritten := (written_read _).1 _ _ _ _ hv
    exact h.within (fun _ _ _ hinner hset => hinner.addKey hwritten hset) hadd

theorem NodesWritten.readLines (steps : Nat) (h : NodesWritten nodes) {current : List String}
    (hlines : readLines steps current nodes cs = some nodes') : NodesWritten nodes' := by
  induction steps generalizing current nodes cs with
  | zero => contradiction
  | succ steps ih =>
    rw [Toml.readLines] at hlines
    split at hlines
    · cases hlines
      exact h
    · obtain ⟨⟨next, added, r⟩, hline, hlines⟩ := Option.bind_eq_some_iff.mp hlines
      exact ih (h.readLine hline) hlines

theorem entriesWritten_parse? {text : String} {es : Entries} (h : parse? text = some es) :
    EntriesWritten es := by
  obtain ⟨nodes, hlines, rfl⟩ := Option.map_eq_some_iff.mp h
  have hempty : NodesWritten [] := trivial
  exact entriesWritten_nodesEntries nodes (hempty.readLines _ hlines)

end TierRouting.Toml
