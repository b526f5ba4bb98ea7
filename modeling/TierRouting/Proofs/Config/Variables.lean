import TierRouting.Proofs.Config.Overlay

/-! Variables that set different leaves: what they make of a leaf is the value of its variable. -/
namespace TierRouting.Config

variable {path q : List String} {v : Value} {parts : List (List Char)}

/-- Nothing lies below the end of a path. -/
structure PrefixFree (P : List String → Prop) : Prop where
  ne_nil : ∀ p, P p → p ≠ []
  eq : ∀ p q, P p → P q → p <+: q → p = q

namespace Environment

theorem leads_nested (h : ∀ p, parts.map String.ofList = p → p <+: q → p = q) :
    Leads q (nested parts v) := by
  induction parts generalizing q with
  | nil =>
    obtain rfl : [] = q := h [] rfl List.nil_prefix
    trivial
  | cons part parts ih =>
    cases q with
    | nil => trivial
    | cons key q =>
      refine ⟨[(String.ofList part, nested parts v)], rfl, List.pairwise_singleton _ _, ?_⟩
      intro w hw
      rw [Entries.get?_cons] at hw
      split at hw
      · next hkey =>
        cases hw
        refine ih fun p hp hprefix => ?_
        have hcons := h (key :: p) (by rw [List.map_cons, hp, hkey])
          (List.cons_prefix_cons.mpr ⟨rfl, hprefix⟩)
        exact (List.cons.inj hcons).2
      · contradiction

theorem at?_nested (h : ∀ p, parts.map String.ofList = p → p <+: q ∨ q <+: p → p = q) :
    Value.at? q (nested parts v) = if parts.map String.ofList = q then some v else none := by
  induction parts generalizing q with
  | nil =>
    obtain rfl : [] = q := h [] rfl (.inl List.nil_prefix)
    rfl
  | cons part parts ih =>
    cases q with
    | nil => exact absurd (h _ rfl (.inr List.nil_prefix)) (List.cons_ne_nil _ _)
    | cons key q =>
      rw [nested, at?_cons_table, Entries.get?_cons, List.map_cons]
      by_cases hkey : String.ofList part = key
      · subst hkey
        rw [if_pos rfl, Option.bind_some, ih fun p hp hprefix => ?_]
        · simp
        · have hcons := h (String.ofList part :: p) (by rw [List.map_cons, hp])
            (Or.imp (fun hp => List.cons_prefix_cons.mpr ⟨rfl, hp⟩)
              (fun hp => List.cons_prefix_cons.mpr ⟨rfl, hp⟩) hprefix)
          exact (List.cons.inj hcons).2
      · rw [if_neg hkey, if_neg fun he => hkey (List.cons.inj he).1]
        rfl

/-- The path of the setting that a variable is for. -/
def settingPath? (name : String) : Option (List String) :=
  (path? name).map (·.map String.ofList)

/-- The value that a variable gives to the setting at a path. -/
def settingOf? (path : List String) (binding : String × String) : Option Value :=
  if settingPath? binding.1 = some path then some (value binding.2) else none

/-- The value that the variables give to the setting at a path. -/
def setting? (env : Environment) (path : List String) : Option Value :=
  env.bindings.findSome? (settingOf? path)

/-- The variables are for settings at paths of one kind, and each for one of its own. -/
structure SetsDistinct (env : Environment) (P : List String → Prop) : Prop where
  isLeaf : ∀ b ∈ env.bindings, ∀ p, settingPath? b.1 = some p → P p
  distinct : env.bindings.Pairwise fun a b =>
    ∀ p, settingPath? a.1 = some p → settingPath? b.1 ≠ some p

/-- The table of one variable. -/
def tableOf (binding : String × String) : Entries :=
  match path? binding.1 with
  | some path =>
    match nested path (value binding.2) with
    | .table es => es
    | _ => []
  | none => []

theorem entries_eq (env : Environment) :
    env.entries = (env.bindings.map tableOf).foldl overlayEntries [] := by
  rw [entries, List.foldl_map]
  congr 1
  funext es b
  obtain ⟨name, text⟩ := b
  unfold tableOf
  dsimp only
  cases path? name with
  | none => simp [overlayEntries]
  | some path => cases hn : nested path (value text) <;> simp [hn, overlayEntries]

variable {P : List String → Prop} {b : String × String}

theorem tableOf_spec (hP : PrefixFree P) (hb : ∀ p, settingPath? b.1 = some p → P p) (hq : P q) :
    Leads q (.table (tableOf b)) ∧ Value.at? q (.table (tableOf b)) = settingOf? q b := by
  obtain ⟨key, path, rfl⟩ := List.exists_cons_of_ne_nil (hP.ne_nil q hq)
  unfold settingPath? at hb
  unfold tableOf settingOf? settingPath?
  cases hpath : path? b.1 with
  | none => exact ⟨leads_nil _, by simp [at?_empty]⟩
  | some parts =>
    have hparts : P (parts.map String.ofList) := hb _ (by rw [hpath, Option.map_some])
    cases parts with
    | nil => exact absurd rfl (hP.ne_nil _ hparts)
    | cons part parts =>
      have hleads : Leads (key :: path) (nested (part :: parts) (value b.2)) := by
        refine leads_nested fun p hp hprefix => ?_
        subst hp
        exact hP.eq _ _ hparts hq hprefix
      have hat : Value.at? (key :: path) (nested (part :: parts) (value b.2)) =
          if (part :: parts).map String.ofList = key :: path then some (value b.2) else none := by
        refine at?_nested fun p hp hprefix => ?_
        subst hp
        rcases hprefix with hprefix | hprefix
        · exact hP.eq _ _ hparts hq hprefix
        · exact (hP.eq _ _ hq hparts hprefix).symm
      exact ⟨hleads, hat.trans (by simp only [Option.map_some, Option.some.injEq])⟩

/-- Where there is one value at most, overlaying finds it. -/
theorem foldl_overlay?_of_pairwise {values : List (Option Value)}
    (h : values.Pairwise fun u w => u = none ∨ w = none) :
    values.foldl overlay? none = values.findSome? id := by
  induction values with
  | nil => rfl
  | cons u values ih =>
    obtain ⟨hu, hrest⟩ := List.pairwise_cons.mp h
    rw [List.foldl_cons, List.findSome?_cons, overlay?_none_left]
    cases u with
    | none => exact ih hrest
    | some v =>
      have hnone : ∀ w ∈ values, w = none := fun w hw => (hu w hw).resolve_left nofun
      clear h hu ih hrest
      induction values with
      | nil => rfl
      | cons w values ih =>
        obtain rfl := hnone w List.mem_cons_self
        exact ih fun w hw => hnone w (List.mem_cons_of_mem _ hw)

theorem pairwise_settingOf? {env : Environment} (h : env.SetsDistinct P) (q : List String) :
    (env.bindings.map (settingOf? q)).Pairwise fun u w => u = none ∨ w = none := by
  rw [List.pairwise_map]
  refine h.distinct.imp fun {a b} hab => ?_
  unfold settingOf?
  by_cases ha : settingPath? a.1 = some q
  · exact .inr (if_neg (hab q ha))
  · exact .inl (if_neg ha)

/-- The layer of the variables has at each leaf what its variable says. -/
theorem at?_entries {env : Environment} (hP : PrefixFree P) (h : env.SetsDistinct P) (hq : P q) :
    Leads q (.table env.entries) ∧ Value.at? q (.table env.entries) = env.setting? q := by
  have hspec (b) (hb : b ∈ env.bindings) := tableOf_spec hP (h.isLeaf b hb) hq
  have hall : ∀ t ∈ env.bindings.map tableOf, Leads q (.table t) :=
    List.forall_mem_map.mpr fun b hb => (hspec b hb).1
  obtain ⟨hleads, hat⟩ := at?_foldl (leads_nil q) hall
  have hvalues : (env.bindings.map tableOf).map (Value.at? q <| .table ·) =
      env.bindings.map (settingOf? q) := by
    rw [List.map_map]
    exact List.map_congr_left fun b hb => (hspec b hb).2
  rw [hvalues, at?_empty (hP.ne_nil q hq), foldl_overlay?_of_pairwise (pairwise_settingOf? h q),
    List.findSome?_map] at hat
  rw [entries_eq]
  exact ⟨hleads, hat⟩

/-- Of variables for different settings, the one for a path gives it its value. -/
theorem setting?_of_mem {env : Environment} (h : env.SetsDistinct P) (hb : b ∈ env.bindings)
    (hpath : settingPath? b.1 = some path) : env.setting? path = some (value b.2) := by
  have hdistinct := h.distinct
  obtain ⟨before, after, hsplit⟩ := List.append_of_mem hb
  rw [hsplit, List.pairwise_append] at hdistinct
  have hnone : before.findSome? (settingOf? path) = none := by
    refine List.findSome?_eq_none_iff.mpr fun a ha => ?_
    have hother := hdistinct.2.2 a ha b List.mem_cons_self
    exact if_neg fun hsame => hother path hsame hpath
  rw [setting?, hsplit, List.findSome?_append, hnone, Option.none_or, List.findSome?_cons,
    settingOf?, if_pos hpath]

end Environment
end TierRouting.Config
