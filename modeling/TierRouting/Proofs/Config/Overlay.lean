import TierRouting.Config.Load

/-! Overlaying tables, seen from one path: the value at its end is the one of the last layer. -/
namespace TierRouting.Config

variable {key k : String} {v w : Value} {es a b : Entries} {path : List String}

namespace Entries

theorem get?_nil : get? [] key = none := rfl

theorem get?_cons : get? ((k, v) :: es) key = if k = key then some v else get? es key := by
  unfold get?
  by_cases hk : k = key
  · simp [hk]
  · simp [hk]

theorem get?_insert (k : String) (v : Value) (es : Entries) (key : String) :
    (es.insert k v).get? key = if k = key then some v else es.get? key := by
  induction es with
  | nil => rw [insert, get?_cons]
  | cons e es ih =>
    obtain ⟨l, w⟩ := e
    rw [insert]
    split
    · rw [get?_cons]
    · split
      · next heq =>
        subst heq
        rw [get?_cons, get?_cons]
        split
        · rfl
        · rfl
      · next hne =>
        rw [get?_cons, ih, get?_cons]
        by_cases hl : l = key
        · subst hl
          rw [if_pos rfl, if_pos rfl, if_neg hne]
        · rw [if_neg hl, if_neg hl]

/-- Every key comes before those that follow it. -/
def Sorted (es : Entries) : Prop := es.Pairwise fun x y => x.1 < y.1

theorem mem_insert {e : String × Value} (h : e ∈ es.insert k v) : e = (k, v) ∨ e ∈ es := by
  induction es with
  | nil => exact .inl (List.mem_singleton.mp h)
  | cons d es ih =>
    obtain ⟨l, w⟩ := d
    rw [insert] at h
    split at h
    · exact List.mem_cons.mp h
    · split at h
      · rcases List.mem_cons.mp h with h | h
        · exact .inl h
        · exact .inr (List.mem_cons_of_mem _ h)
      · rcases List.mem_cons.mp h with h | h
        · exact .inr (h ▸ List.mem_cons_self)
        · exact (ih h).imp_right (List.mem_cons_of_mem _)

theorem Sorted.insert (h : es.Sorted) (k : String) (v : Value) : (es.insert k v).Sorted := by
  induction es with
  | nil => exact List.pairwise_singleton _ _
  | cons d es ih =>
    obtain ⟨l, w⟩ := d
    obtain ⟨hl, hes⟩ := List.pairwise_cons.mp h
    rw [Entries.insert]
    split
    · next hlt =>
      refine List.pairwise_cons.mpr ⟨fun e he => ?_, h⟩
      rcases List.mem_cons.mp he with rfl | he
      · exact hlt
      · exact String.lt_trans hlt (hl e he)
    · next hnlt =>
      split
      · next heq => exact List.pairwise_cons.mpr ⟨heq ▸ hl, hes⟩
      · next hne =>
        refine List.pairwise_cons.mpr ⟨fun e he => ?_, ih hes⟩
        rcases mem_insert he with rfl | he
        · exact Std.lt_of_le_of_ne hnlt (Ne.symm hne)
        · exact hl e he

theorem insert_of_forall_lt (h : ∀ e ∈ es, e.1 < k) : es.insert k v = es ++ [(k, v)] := by
  induction es with
  | nil => rfl
  | cons e es ih =>
    obtain ⟨l, w⟩ := e
    have hl : l < k := h (l, w) List.mem_cons_self
    have hkl : ¬ k < l := String.lt_asymm hl
    have hne : k ≠ l := fun heq => String.lt_irrefl k (heq ▸ hl)
    rw [insert, if_neg hkl, if_neg hne, ih fun e he => h e (List.mem_cons_of_mem _ he)]
    rfl

theorem mem_of_get? (h : es.get? key = some v) : (key, v) ∈ es := by
  obtain ⟨⟨k, w⟩, hfind, rfl⟩ := Option.map_eq_some_iff.mp h
  obtain rfl : k = key := by simpa using List.find?_some hfind
  exact List.mem_of_find?_eq_some hfind

theorem Sorted.get?_of_mem (h : es.Sorted) (he : (key, v) ∈ es) : es.get? key = some v := by
  induction es with
  | nil => simp at he
  | cons d es ih =>
    obtain ⟨l, w⟩ := d
    obtain ⟨hl, hes⟩ := List.pairwise_cons.mp h
    rw [get?_cons]
    rcases List.mem_cons.mp he with heq | he
    · cases heq
      rw [if_pos rfl]
    · have hne : l ≠ key := fun heq => String.lt_irrefl l (heq ▸ hl _ he)
      rw [if_neg hne, ih hes he]

theorem Sorted.get?_eq_none (h : Sorted ((k, v) :: es)) : es.get? k = none := by
  rw [get?, Option.map_eq_none_iff, List.find?_eq_none]
  intro e he heq
  have hlt := (List.pairwise_cons.mp h).1 e he
  rw [beq_iff_eq.mp heq] at hlt
  exact String.lt_irrefl k hlt

end Entries

/-- What a layer makes of a value below it. -/
def overlay? : Option Value → Option Value → Option Value
  | w, none => w
  | none, some v => some v
  | some w, some v => some (w.overlay v)

@[simp] theorem overlay?_none_left (v : Option Value) : overlay? none v = v := by
  cases v <;> rfl

@[simp] theorem overlay?_none_right (w : Option Value) : overlay? w none = w := by
  cases w <;> rfl

theorem overlayEntries_cons (a : Entries) (k : String) (v : Value) (r : Entries) :
    overlayEntries a ((k, v) :: r) =
      overlayEntries (a.insert k (match a.get? k with | some w => w.overlay v | none => v)) r := by
  cases hget : a.get? k with
  | none => simp only [overlayEntries, hget]
  | some w => simp only [overlayEntries, hget]

theorem get?_overlayEntries (hb : b.Sorted) (a : Entries) (key : String) :
    (overlayEntries a b).get? key = overlay? (a.get? key) (b.get? key) := by
  induction b generalizing a with
  | nil =>
    rw [overlayEntries]
    rfl
  | cons e b ih =>
    obtain ⟨k, v⟩ := e
    rw [overlayEntries_cons, ih (List.pairwise_cons.mp hb).2, Entries.get?_insert,
      Entries.get?_cons]
    by_cases hk : k = key
    · subst hk
      rw [if_pos rfl, if_pos rfl, hb.get?_eq_none]
      cases a.get? k with
      | none => rfl
      | some w => rfl
    · rw [if_neg hk, if_neg hk]

theorem Entries.Sorted.overlayEntries (ha : a.Sorted) (b : Entries) :
    (overlayEntries a b).Sorted := by
  induction b generalizing a with
  | nil =>
    rw [Config.overlayEntries]
    exact ha
  | cons e b ih =>
    obtain ⟨k, v⟩ := e
    rw [overlayEntries_cons]
    exact ih (ha.insert k _)

/-- Entries whose keys are sorted and come behind all others are added as they are. -/
theorem overlayEntries_of_sorted (hab : (a ++ b).Sorted) : overlayEntries a b = a ++ b := by
  induction b generalizing a with
  | nil => rw [overlayEntries, List.append_nil]
  | cons e b ih =>
    obtain ⟨k, v⟩ := e
    have hlt : ∀ d ∈ a, d.1 < k := by
      intro d hd
      exact (List.pairwise_append.mp hab).2.2 d hd (k, v) List.mem_cons_self
    have hnew : a.get? k = none := by
      rw [Entries.get?, Option.map_eq_none_iff, List.find?_eq_none]
      intro d hd heq
      have hkk := hlt d hd
      rw [beq_iff_eq.mp heq] at hkk
      exact String.lt_irrefl k hkk
    rw [List.append_cons] at hab ⊢
    rw [overlayEntries_cons, hnew, Entries.insert_of_forall_lt hlt, ih hab]

def Value.IsTable : Value → Prop
  | .table _ => True
  | _ => False

theorem overlay_of_not_isTable (w : Value) (h : ¬ v.IsTable) : w.overlay v = v := by
  cases v with
  | table es => exact absurd trivial h
  | _ => cases w <;> rw [Value.overlay] <;> nofun

theorem isTable_overlay (w : Value) (h : v.IsTable) : (w.overlay v).IsTable := by
  cases v with
  | table es => cases w <;> simp [Value.overlay, Value.IsTable]
  | _ => exact h.elim

theorem at?_cons_table (key : String) (path : List String) (es : Entries) :
    Value.at? (key :: path) (.table es) = (es.get? key).bind (Value.at? path) := by
  rw [Value.at?]

theorem at?_empty (hpath : path ≠ []) : Value.at? path (.table []) = none := by
  obtain ⟨key, path, rfl⟩ := List.exists_cons_of_ne_nil hpath
  rfl

/-- Tables whose keys are sorted stand on the way along a path, as far as there is anything. -/
def Leads : List String → Value → Prop
  | [], _ => True
  | key :: path, v => ∃ es : Entries, v = .table es ∧ es.Sorted ∧
      ∀ w, es.get? key = some w → Leads path w

theorem leads_nil (path : List String) : Leads path (.table []) := by
  cases path with
  | nil => trivial
  | cons key path => exact ⟨[], rfl, .nil, by simp [Entries.get?_nil]⟩

/-- Overlaying acts at the end of a path as it does on the values there. -/
theorem at?_overlay (hw : Leads path w) (hv : Leads path v) :
    Value.at? path (w.overlay v) = overlay? (Value.at? path w) (Value.at? path v) := by
  induction path generalizing v w with
  | nil => simp [Value.at?, overlay?]
  | cons key path ih =>
    obtain ⟨a, rfl, -, ha⟩ := hw
    obtain ⟨b, rfl, hsorted, hb⟩ := hv
    rw [Value.overlay, at?_cons_table, at?_cons_table, at?_cons_table, get?_overlayEntries hsorted]
    cases hva : a.get? key with
    | none => simp
    | some w =>
      cases hvb : b.get? key with
      | none => simp
      | some v => exact ih (ha w hva) (hb v hvb)

theorem Leads.overlay (hw : Leads path w) (hv : Leads path v) : Leads path (w.overlay v) := by
  induction path generalizing v w with
  | nil => trivial
  | cons key path ih =>
    obtain ⟨a, rfl, hsorteda, ha⟩ := hw
    obtain ⟨b, rfl, hsortedb, hb⟩ := hv
    refine ⟨overlayEntries a b, by rw [Value.overlay], hsorteda.overlayEntries b, fun u hu => ?_⟩
    rw [get?_overlayEntries hsortedb] at hu
    cases hva : a.get? key with
    | none =>
      cases hvb : b.get? key with
      | none => simp [hva, hvb] at hu
      | some v =>
        obtain rfl : v = u := by simpa [hva, hvb] using hu
        exact hb v hvb
    | some w =>
      cases hvb : b.get? key with
      | none =>
        obtain rfl : w = u := by simpa [hva, hvb] using hu
        exact ha w hva
      | some v =>
        obtain rfl : w.overlay v = u := by simpa [hva, hvb, overlay?] using hu
        exact ih (ha w hva) (hb v hvb)

/-- The value at a path of a table that several tables overlay in turn. -/
theorem at?_foldl {tables : List Entries} (hes : Leads path (.table es))
    (h : ∀ t ∈ tables, Leads path (.table t)) :
    Leads path (.table (tables.foldl overlayEntries es)) ∧
      Value.at? path (.table (tables.foldl overlayEntries es)) =
        (tables.map (Value.at? path <| .table ·)).foldl overlay? (Value.at? path (.table es)) := by
  induction tables generalizing es with
  | nil => exact ⟨hes, rfl⟩
  | cons t tables ih =>
    have ht := h t List.mem_cons_self
    have hsame : Value.table (overlayEntries es t) = (Value.table es).overlay (.table t) := by
      rw [Value.overlay]
    have hnext := hes.overlay ht
    have hat := at?_overlay hes ht
    rw [← hsame] at hnext hat
    rw [List.foldl_cons, List.map_cons, List.foldl_cons, ← hat]
    exact ih hnext fun u hu => h u (List.mem_cons_of_mem t hu)

theorem or_of_overlay? {o u : Option Value} (h : overlay? o u = some v) (hv : ¬ v.IsTable) :
    u.or o = some v := by
  cases u with
  | none =>
    rw [overlay?] at h
    exact h
  | some u =>
    cases o with
    | none => exact h
    | some w =>
      obtain rfl : w.overlay u = v := Option.some.inj h
      rw [Option.some_or, overlay_of_not_isTable w fun hu => hv (isTable_overlay w hu)]

/-- Values overlaid make a table, or else the last one stands alone. -/
theorem last_of_foldl {values : List (Option Value)} {o : Option Value}
    (h : values.foldl overlay? o = some v) (hv : ¬ v.IsTable) :
    (values.reverse.findSome? id).or o = some v := by
  induction values generalizing o with
  | nil => exact h
  | cons u values ih =>
    have hlast := ih h
    rw [List.reverse_cons, List.findSome?_append]
    cases hrest : values.reverse.findSome? id with
    | some x => simpa [hrest] using hlast
    | none =>
      rw [hrest, Option.none_or] at hlast
      simpa using or_of_overlay? hlast hv

theorem none_of_foldl {values : List (Option Value)} {o : Option Value}
    (h : values.foldl overlay? o = none) : (values.reverse.findSome? id).or o = none := by
  induction values generalizing o with
  | nil => exact h
  | cons u values ih =>
    have hlast := ih h
    rw [List.reverse_cons, List.findSome?_append]
    rw [Option.or_eq_none_iff] at hlast
    cases u with
    | none => simpa [hlast.1] using hlast.2
    | some u => cases o <;> simp [overlay?] at hlast

end TierRouting.Config
