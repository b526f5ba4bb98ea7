import TierRouting.Proofs.Config.Overlay

/-! Reading settings from tables: each field has the value under its key, or else its default. -/
namespace TierRouting.Config

variable {σ τ α : Type} {fields : List (Field σ)} {key k name : String} {v w : Value}
  {read : Value → Extracted α} {get : σ → α} {es : Entries} {s s' start : σ}

theorem under_eq_ok {x : Extracted α} {a : α} : Extracted.under key x = .ok a ↔ x = .ok a := by
  cases x with
  | ok b => rfl
  | error f => exact ⟨nofun, nofun⟩

theorem map_eq_ok {β : Type} {x : Extracted α} {f : α → β} {b : β} :
    f <$> x = .ok b ↔ ∃ a, x = .ok a ∧ f a = b := by
  cases x with
  | ok a => simp [Functor.map, Except.map]
  | error f => simp [Functor.map, Except.map]

theorem bind_eq_ok {ε β : Type} {x : Except ε α} {f : α → Except ε β} {b : β} :
    (x >>= f) = .ok b ↔ ∃ a, x = .ok a ∧ f a = .ok b := by
  cases x with
  | ok a => simp [bind, Except.bind]
  | error f => simp [bind, Except.bind]

@[simp] theorem key_field (key : String) (read : Value → Extracted α) (set : σ → α → σ) :
    (field key read set).key = key := rfl

@[simp] theorem forall_set_field {set : σ → α → σ} {Q : σ → Value → σ → Prop} :
    (∀ s v s', (field key read set).set s v = .ok s' → Q s v s') ↔
      ∀ s v a, read v = .ok a → Q s v (set s a) := by
  constructor
  · exact fun h s v a ha => h s v _ (map_eq_ok.mpr ⟨a, ha, rfl⟩)
  · intro h s v s' hset
    obtain ⟨a, ha, rfl⟩ := map_eq_ok.mp hset
    exact h s v a ha

/-- Setting an entry gives a part of a section the value under its own key, and leaves it alone
under any other. -/
def Tracks (fields : List (Field σ)) (key : String) (read : Value → Extracted α) (get : σ → α) :
    Prop :=
  ∀ s entry s', setEntry fields s entry = .ok s' →
    if entry.1 = key then read entry.2 = .ok (get s') else get s' = get s

theorem tracks_of_fields
    (h : ∀ f ∈ fields, ∀ s v s', f.set s v = .ok s' →
      if f.key = key then read v = .ok (get s') else get s' = get s) :
    Tracks fields key read get := by
  intro s entry s' hset
  rw [setEntry, under_eq_ok] at hset
  split at hset
  · next f hf =>
    have hkey : f.key = entry.1 := by simpa using List.find?_some hf
    rw [← hkey]
    exact h f (List.mem_of_find?_eq_some hf) s entry.2 s' hset
  · contradiction

/-- Of entries with different keys, only the one under the key counts. -/
theorem Tracks.foldlM (h : Tracks fields key read get) (hes : es.Sorted)
    (hfold : es.foldlM (setEntry fields) start = .ok s) :
    match es.get? key with
    | some v => read v = .ok (get s)
    | none => get s = get start := by
  induction es generalizing start with
  | nil =>
    cases hfold
    rfl
  | cons e es ih =>
    obtain ⟨k, v⟩ := e
    rw [List.foldlM_cons, bind_eq_ok] at hfold
    obtain ⟨next, hset, hrest⟩ := hfold
    have hstep := h _ _ _ hset
    have hlater := ih (List.pairwise_cons.mp hes).2 hrest
    rw [Entries.get?_cons]
    by_cases hk : k = key
    · subst hk
      rw [hes.get?_eq_none] at hlater
      rw [if_pos rfl] at hstep ⊢
      rw [hlater]
      exact hstep
    · rw [if_neg hk] at hstep ⊢
      rw [← hstep]
      exact hlater

/-- A section is read only if its keys are declared. -/
theorem declared_of_foldlM (h : es.foldlM (setEntry fields) start = .ok s) :
    ∀ e ∈ es, e.1 ∈ fields.map (·.key) := by
  induction es generalizing start with
  | nil => exact fun e he => absurd he List.not_mem_nil
  | cons e es ih =>
    rw [List.foldlM_cons, bind_eq_ok] at h
    obtain ⟨next, hset, hrest⟩ := h
    rw [List.forall_mem_cons]
    refine ⟨?_, ih hrest⟩
    rw [setEntry, under_eq_ok] at hset
    split at hset
    · next f hf =>
      have hkey : f.key = e.1 := by simpa using List.find?_some hf
      exact hkey ▸ List.mem_map_of_mem (List.mem_of_find?_eq_some hf)
    · contradiction

/-- A part of what is read is the value at the end of a path, or its default if there is none. -/
def Extracts (whole : Value → Extracted σ) (path : List String) (read : Value → Extracted α)
    (get : σ → α) (default : α) : Prop :=
  ∀ v s, Leads path v → whole v = .ok s →
    match v.at? path with
    | some w => read w = .ok (get s)
    | none => get s = default

theorem extracts_nil (read : Value → Extracted α) (d : α) : Extracts read [] read id d :=
  fun _ _ _ h => h

theorem Extracts.section [Inhabited σ] {inner : Value → Extracted τ} {part : σ → τ}
    {path : List String} {g : τ → α} {d : α} (hkey : Tracks fields key inner part)
    (h : Extracts inner path read g d) (hd : g (part default) = d) :
    Extracts (readSection name fields) (key :: path) read (g ∘ part) d := by
  rintro _ s ⟨es, rfl, hsorted, hbelow⟩ hread
  have hpart := hkey.foldlM hsorted hread
  rw [at?_cons_table]
  cases hget : es.get? key with
  | none =>
    rw [hget] at hpart
    exact (congrArg g hpart).trans hd
  | some w =>
    rw [hget] at hpart
    exact h w (part s) (hbelow w hget) hpart

theorem Tracks.extracts [Inhabited σ] (hkey : Tracks fields key read get) :
    Extracts (readSection name fields) [key] read get (get default) := by
  have hid : Extracts (readSection name fields) [key] read (id ∘ get) (get default) :=
    .section hkey (extracts_nil read _) rfl
  exact hid

/-- The text under a key of a list of texts. -/
def textUnder (key : String) (texts : List (String × String)) : Option String :=
  (texts.find? (·.1 == key)).map (·.2)

theorem textUnder_cons (k t : String) (texts : List (String × String)) :
    textUnder key ((k, t) :: texts) = if k = key then some t else textUnder key texts := by
  unfold textUnder
  by_cases hk : k = key
  · simp [hk]
  · simp [hk]

theorem extracts_readStrings (key : String) :
    Extracts readStrings [key] (readOption readString) (textUnder key) none := by
  rintro _ texts ⟨es, rfl, -, -⟩ hread
  rw [at?_cons_table]
  rw [readStrings] at hread
  induction es generalizing texts with
  | nil =>
    cases hread
    rfl
  | cons e es ih =>
    obtain ⟨k, v⟩ := e
    rw [List.mapM_cons, bind_eq_ok] at hread
    obtain ⟨pair, hpair, hread⟩ := hread
    obtain ⟨t, ht, rfl⟩ := map_eq_ok.mp hpair
    rw [bind_eq_ok] at hread
    obtain ⟨later, hlater, hread⟩ := hread
    cases hread
    rw [under_eq_ok] at ht
    rw [textUnder_cons, Entries.get?_cons]
    by_cases hk : k = key
    · rw [if_pos hk, if_pos hk]
      exact map_eq_ok.mpr ⟨t, ht, rfl⟩
    · rw [if_neg hk, if_neg hk]
      exact ih later hlater

/-- No table is read as a single value. -/
def RejectsTables (read : Value → Extracted α) : Prop := ∀ v a, read v = .ok a → ¬ v.IsTable

theorem rejectsTables_of_table (h : ∀ es a, read (.table es) ≠ .ok a) : RejectsTables read := by
  intro v a hread htable
  cases v with
  | table es => exact h es a hread
  | _ => exact htable.elim

theorem rejectsTables_readString : RejectsTables readString :=
  rejectsTables_of_table fun _ _ => nofun

theorem rejectsTables_readBool : RejectsTables readBool :=
  rejectsTables_of_table fun _ _ => nofun

theorem rejectsTables_readFloat : RejectsTables readFloat :=
  rejectsTables_of_table fun _ _ => nofun

theorem RejectsTables.readOption (h : RejectsTables read) : RejectsTables (readOption read) := by
  intro v a hread
  obtain ⟨b, hb, -⟩ := map_eq_ok.mp hread
  exact h v b hb

/-- A table may name a bias, but no value can stand under the name. -/
theorem rejectsTables_readBias : RejectsTables readBias := by
  refine rejectsTables_of_table fun es a h => ?_
  cases es with
  | nil => exact nomatch h
  | cons e es =>
    rw [readBias, under_eq_ok, bind_eq_ok] at h
    obtain ⟨b, -, hb⟩ := h
    exact nomatch hb

end TierRouting.Config
