import Mathlib.Data.List.Forall2
import TierRouting.Config.Validate
import TierRouting.Proofs.Text.Trimming

/-! The rules for settings and what is reported of them: one error for each rule that is broken, in
a fixed order. What is wrong elsewhere neither hides an error nor changes it. -/
namespace TierRouting

open Text Float.Model

variable {cs : List Char}

/-- The text starts like an address of the web. -/
def IsWebAddress (cs : List Char) : Prop := "http://".toList <+: cs ∨ "https://".toList <+: cs

theorem IsWebAddress.head (h : IsWebAddress cs) : ∀ c ∈ cs.head?, isBlank c = false := by
  have hletter : isBlank 'h' = false := by decide
  rcases h with ⟨rest, rfl⟩ | ⟨rest, rfl⟩
  · rintro c ⟨⟩
    exact hletter
  · rintro c ⟨⟩
    exact hletter

theorem IsWebAddress.mono {ds : List Char} (h : IsWebAddress cs) (hds : cs <+: ds) :
    IsWebAddress ds :=
  h.imp (·.trans hds) (·.trans hds)

/-- A zero of either sign, or a positive number that is finite. -/
inductive IsAmount : UnpackedFloat → Prop
  | zero (sign : UnpackedFloat.Sign) : IsAmount (.zero sign)
  | positive (m : Nat) (e : Int) (hm : 0 < m) : IsAmount (.finite .positive m e hm)

namespace Config

variable {s s' : Settings} {r r' : Rule} {v : Violation} {vs : List Violation} {url : String}

/-- A text of nothing but blanks, or of nothing at all. -/
def OnlyBlanks (text : String) : Prop := ∀ c ∈ text.toList, isBlank c = true

/-- What the settings have to be like, with a rule of its own for each address. -/
inductive Rule where
  | defaultModel
  | baseUrl (provider : String)
  | dailyCap
  | monthlyCap
  | analyticsPath
deriving DecidableEq

namespace Rule

/-- The key of the setting that the rule is about. -/
def key : Rule → String
  | defaultModel => "providers.default_model"
  | baseUrl provider => "providers.base_urls." ++ provider
  | dailyCap => "routing.budget." ++ "daily_cap_usd"
  | monthlyCap => "routing.budget." ++ "monthly_cap_usd"
  | analyticsPath => "routing.analytics.path"

def place : Rule → Nat
  | defaultModel => 0
  | baseUrl _ => 1
  | dailyCap => 2
  | monthlyCap => 3
  | analyticsPath => 4

/-- The order of the rules, where addresses go by the names of their providers. -/
def Before : Rule → Rule → Prop
  | baseUrl p, baseUrl q => p < q
  | r, r' => r.place < r'.place

end Rule

/-- Every provider has one address, and the addresses stand in the order of the providers. -/
def Settings.InOrder (s : Settings) : Prop := s.providers.baseUrls.Pairwise fun a b => a.1 < b.1

/-- Settings that keep all rules. -/
structure Sound (s : Settings) : Prop where
  defaultModel : ¬ OnlyBlanks s.providers.defaultModel
  baseUrls : ∀ entry ∈ s.providers.baseUrls, IsWebAddress (trim entry.2.toList)
  dailyCap : ∀ cap ∈ s.routing.budget.dailyCap, IsAmount cap.toModel.unpack
  monthlyCap : ∀ cap ∈ s.routing.budget.monthlyCap, IsAmount cap.toModel.unpack
  analyticsPath : ∀ path ∈ s.routing.analytics.path, ¬ OnlyBlanks path

/-- The rule is broken, and `v` is what is to be said of it. -/
inductive Reports (s : Settings) : Rule → Violation → Prop
  | defaultModel (h : OnlyBlanks s.providers.defaultModel) :
      Reports s .defaultModel .defaultModelBlank
  | baseUrl (provider url : String) (hmem : (provider, url) ∈ s.providers.baseUrls)
      (h : ¬ IsWebAddress (trim url.toList)) :
      Reports s (.baseUrl provider) (.notAnAddress provider (String.ofList (trim url.toList)))
  | dailyCap (cap : Float) (hcap : s.routing.budget.dailyCap = some cap)
      (h : ¬ IsAmount cap.toModel.unpack) :
      Reports s .dailyCap (.capNotAmount "daily_cap_usd" cap)
  | monthlyCap (cap : Float) (hcap : s.routing.budget.monthlyCap = some cap)
      (h : ¬ IsAmount cap.toModel.unpack) :
      Reports s .monthlyCap (.capNotAmount "monthly_cap_usd" cap)
  | analyticsPath (path : String) (hpath : s.routing.analytics.path = some path)
      (h : OnlyBlanks path) :
      Reports s .analyticsPath .analyticsPathBlank

/-- The settings are alike in what all other rules look at. -/
structure AlikeBut (r : Rule) (s s' : Settings) : Prop where
  defaultModel : r ≠ .defaultModel → s.providers.defaultModel = s'.providers.defaultModel
  baseUrl : ∀ provider, r ≠ .baseUrl provider →
    s.providers.baseUrls.lookup provider = s'.providers.baseUrls.lookup provider
  dailyCap : r ≠ .dailyCap → s.routing.budget.dailyCap = s'.routing.budget.dailyCap
  monthlyCap : r ≠ .monthlyCap → s.routing.budget.monthlyCap = s'.routing.budget.monthlyCap
  analyticsPath : r ≠ .analyticsPath → s.routing.analytics.path = s'.routing.analytics.path

/-- How the check of settings ends that finds these violations. -/
def outcome : List Violation → Except (List ConfigError) Unit
  | [] => .ok ()
  | vs => .error (vs.map .violation)

/-- An error starts with the key of the setting that its rule is about. -/
theorem Reports.exists_message (h : Reports s r v) : ∃ rest, v.message = r.key ++ rest := by
  cases h with
  | defaultModel h => exact ⟨" must not be empty", by decide +kernel⟩
  | baseUrl provider url hmem h =>
    refine ⟨" must be an http(s) URL, got " ++ tick (String.ofList (trim url.toList)), ?_⟩
    rw [← String.append_assoc]
    rfl
  | dailyCap cap hcap h =>
    refine ⟨" must be a non-negative number, got " ++ messageLayout.float cap, ?_⟩
    rw [← String.append_assoc]
    rfl
  | monthlyCap cap hcap h =>
    refine ⟨" must be a non-negative number, got " ++ messageLayout.float cap, ?_⟩
    rw [← String.append_assoc]
    rfl
  | analyticsPath path hpath h => exact ⟨" must not be empty when set", by decide +kernel⟩

theorem isBlankText_iff {text : String} : isBlankText text = true ↔ OnlyBlanks text :=
  List.all_eq_true

theorem isAddress_iff : isAddress cs = true ↔ IsWebAddress cs := by
  simp [isAddress, IsWebAddress, List.isPrefixOf_iff_prefix]

theorem isAmount_iff {cap : Float} : isAmount cap = true ↔ IsAmount cap.toModel.unpack := by
  have hle : (0 : Float) ≤ cap ↔ UnpackedFloat.le (.zero .positive) cap.toModel.unpack = true :=
    decide_eq_true_iff
  have hfinite : cap.isFinite = cap.toModel.unpack.isFinite := rfl
  rw [isAmount, Bool.and_eq_true, decide_eq_true_iff, hle, hfinite]
  generalize cap.toModel.unpack = u
  cases u with
  | notANumber => exact iff_of_false nofun nofun
  | infinity sign => exact iff_of_false nofun nofun
  | zero sign => exact iff_of_true ⟨rfl, rfl⟩ (.zero sign)
  | finite sign m e hm =>
    cases sign with
    | positive => exact iff_of_true ⟨rfl, rfl⟩ (.positive m e hm)
    | negative => exact iff_of_false nofun nofun

theorem violationOfUrl?_eq_some_iff {provider : String} :
    violationOfUrl? (provider, url) = some v ↔ ¬ IsWebAddress (trim url.toList) ∧
      v = .notAnAddress provider (String.ofList (trim url.toList)) := by
  rw [violationOfUrl?, ← isAddress_iff]
  cases isAddress (trim url.toList) with
  | true => simp
  | false => simp [eq_comm]

theorem violationOfCap?_eq_some_iff {key : String} {cap : Option Float} :
    violationOfCap? key cap = some v ↔
      ∃ x, cap = some x ∧ ¬ IsAmount x.toModel.unpack ∧ v = .capNotAmount key x := by
  cases cap with
  | none => simp [violationOfCap?]
  | some x =>
    simp only [violationOfCap?, Option.some.injEq, exists_eq_left', ← isAmount_iff]
    cases isAmount x with
    | true => simp
    | false => simp [eq_comm]

/-- What is said of a rule if it is broken. -/
def Rule.violation? (s : Settings) : Rule → Option Violation
  | defaultModel => if isBlankText s.providers.defaultModel then some .defaultModelBlank else none
  | baseUrl provider =>
    (s.providers.baseUrls.lookup provider).bind fun url => violationOfUrl? (provider, url)
  | dailyCap => violationOfCap? "daily_cap_usd" s.routing.budget.dailyCap
  | monthlyCap => violationOfCap? "monthly_cap_usd" s.routing.budget.monthlyCap
  | analyticsPath =>
    if s.routing.analytics.path.any isBlankText then some .analyticsPathBlank else none

/-- The rules for these settings, in their order. -/
def rules (s : Settings) : List Rule :=
  [.defaultModel] ++ s.providers.baseUrls.map (fun entry => .baseUrl entry.1) ++ [.dailyCap] ++
    [.monthlyCap] ++ [.analyticsPath]

/-- The rules that are broken, in their order. -/
def brokenRules (s : Settings) : List Rule :=
  (rules s).filter fun r => (r.violation? s).isSome

theorem lookup_eq_some_iff (hs : s.InOrder) {provider : String} :
    s.providers.baseUrls.lookup provider = some url ↔ (provider, url) ∈ s.providers.baseUrls := by
  unfold Settings.InOrder at hs
  generalize s.providers.baseUrls = entries at hs
  induction entries with
  | nil => simp
  | cons entry entries ih =>
    obtain ⟨p, u⟩ := entry
    obtain ⟨hfirst, hrest⟩ := List.pairwise_cons.mp hs
    rw [List.lookup_cons, List.mem_cons, ← ih hrest]
    by_cases hp : provider = p
    · subst hp
      have hnone : (provider, url) ∉ entries := fun hmem =>
        String.lt_irrefl provider (hfirst _ hmem)
      rw [← ih hrest] at hnone
      simp [hnone, eq_comm]
    · simp [hp, beq_false_of_ne hp]

theorem violation?_eq_some_iff (hs : s.InOrder) : r.violation? s = some v ↔ Reports s r v := by
  constructor
  · intro h
    cases r with
    | defaultModel =>
      rw [Rule.violation?] at h
      split at h
      · next hblank =>
        cases h
        exact .defaultModel (isBlankText_iff.mp hblank)
      · contradiction
    | baseUrl provider =>
      obtain ⟨url, hurl, h⟩ := Option.bind_eq_some_iff.mp h
      obtain ⟨haddress, rfl⟩ := violationOfUrl?_eq_some_iff.mp h
      exact .baseUrl provider url ((lookup_eq_some_iff hs).mp hurl) haddress
    | dailyCap =>
      obtain ⟨cap, hcap, hamount, rfl⟩ := violationOfCap?_eq_some_iff.mp h
      exact .dailyCap cap hcap hamount
    | monthlyCap =>
      obtain ⟨cap, hcap, hamount, rfl⟩ := violationOfCap?_eq_some_iff.mp h
      exact .monthlyCap cap hcap hamount
    | analyticsPath =>
      rw [Rule.violation?] at h
      split at h
      · next hblank =>
        cases h
        obtain ⟨path, hpath, hblank⟩ := (Option.any_eq_true _ _).mp hblank
        exact .analyticsPath path hpath (isBlankText_iff.mp hblank)
      · contradiction
  · intro h
    cases h with
    | defaultModel h => exact if_pos (isBlankText_iff.mpr h)
    | baseUrl provider url hmem h =>
      rw [Rule.violation?, (lookup_eq_some_iff hs).mpr hmem]
      exact violationOfUrl?_eq_some_iff.mpr ⟨h, rfl⟩
    | dailyCap cap hcap h => exact violationOfCap?_eq_some_iff.mpr ⟨cap, hcap, h, rfl⟩
    | monthlyCap cap hcap h => exact violationOfCap?_eq_some_iff.mpr ⟨cap, hcap, h, rfl⟩
    | analyticsPath path hpath h =>
      rw [Rule.violation?, hpath]
      exact if_pos (isBlankText_iff.mpr h)

theorem violations_eq (hs : s.InOrder) : violations s = (rules s).filterMap (·.violation? s) := by
  have hblank : ∀ (b : Bool) (v : Violation),
      (if b then [v] else []) = (if b then some v else none).toList := by
    intro b v
    cases b with
    | true => rfl
    | false => rfl
  have haddresses : s.providers.baseUrls.filterMap violationOfUrl? =
      (s.providers.baseUrls.map fun entry => Rule.baseUrl entry.1).filterMap (·.violation? s) := by
    rw [List.filterMap_map]
    apply List.filterMap_congr
    intro entry hentry
    have hlookup := (lookup_eq_some_iff hs).mpr hentry
    simp [Rule.violation?, hlookup]
  have hsingle : ∀ r : Rule, [r].filterMap (·.violation? s) = (r.violation? s).toList := by
    intro r
    rw [List.filterMap_cons]
    cases r.violation? s with
    | none => rfl
    | some v => rfl
  rw [violations, hblank, haddresses, hblank]
  simp only [rules, List.filterMap_append, hsingle]
  rfl

theorem mem_brokenRules (hs : s.InOrder) : r ∈ brokenRules s ↔ ∃ v, Reports s r v := by
  rw [brokenRules, List.mem_filter, Option.isSome_iff_exists]
  simp only [violation?_eq_some_iff hs]
  constructor
  · exact And.right
  · rintro ⟨v, h⟩
    refine ⟨?_, v, h⟩
    cases h with
    | baseUrl provider url hmem h =>
      have hrule : Rule.baseUrl provider ∈ s.providers.baseUrls.map fun entry => .baseUrl entry.1 :=
        List.mem_map.mpr ⟨_, hmem, rfl⟩
      simp only [rules, List.mem_append, hrule, or_true, true_or]
    | _ => simp [rules]

theorem Rule.Before.asymm (h : r.Before r') : ¬ r'.Before r := by
  intro h'
  cases r with
  | baseUrl p =>
    cases r' with
    | baseUrl q => exact String.lt_asymm h h'
    | _ => exact Nat.lt_asymm h h'
  | _ =>
    cases r' with
    | _ => exact Nat.lt_asymm h h'

theorem pairwise_rules (hs : s.InOrder) : (rules s).Pairwise Rule.Before := by
  have haddresses : (s.providers.baseUrls.map fun entry => Rule.baseUrl entry.1).Pairwise
      Rule.Before := List.pairwise_map.mpr hs
  have hbetween : ∀ r ∈ s.providers.baseUrls.map fun entry => Rule.baseUrl entry.1,
      Rule.defaultModel.Before r ∧ ∀ r' ∈ [.dailyCap, .monthlyCap, .analyticsPath], r.Before r' := by
    intro r hr
    obtain ⟨entry, -, rfl⟩ := List.mem_map.mp hr
    simp [Rule.Before, Rule.place]
  have hrules : rules s = .defaultModel ::
      (s.providers.baseUrls.map (fun entry => .baseUrl entry.1) ++
        [.dailyCap, .monthlyCap, .analyticsPath]) := by simp [rules]
  have hlast : [Rule.dailyCap, .monthlyCap, .analyticsPath].Pairwise Rule.Before := by
    simp [Rule.Before, Rule.place]
  rw [hrules, List.pairwise_cons, List.pairwise_append]
  refine ⟨?_, haddresses, hlast, fun r hr => (hbetween r hr).2⟩
  intro r hr
  rcases List.mem_append.mp hr with hr | hr
  · exact (hbetween r hr).1
  · simp only [List.mem_cons, List.not_mem_nil, or_false] at hr
    rcases hr with rfl | rfl | rfl
    · exact Nat.zero_lt_succ 1
    · exact Nat.zero_lt_succ 2
    · exact Nat.zero_lt_succ 3

theorem nodup_of_pairwise {rs : List Rule} (h : rs.Pairwise Rule.Before) : rs.Nodup := by
  apply h.imp
  intro r r' hr he
  subst he
  exact hr.asymm hr

/-- Rules in order are known by which of them there are. -/
theorem eq_of_mem_iff {rs rs' : List Rule} (h : rs.Pairwise Rule.Before)
    (h' : rs'.Pairwise Rule.Before) (hmem : ∀ r, r ∈ rs ↔ r ∈ rs') : rs = rs' := by
  have hperm : rs.Perm rs' :=
    (List.perm_ext_iff_of_nodup (nodup_of_pairwise h) (nodup_of_pairwise h')).mpr hmem
  apply hperm.eq_of_pairwise _ h h'
  intro r r' _ _ hr hr'
  exact absurd hr' hr.asymm

theorem forall₂_filterMap {α β : Type} (f : α → Option β) (l : List α) :
    List.Forall₂ (fun a b => f a = some b) (l.filter fun a => (f a).isSome) (l.filterMap f) := by
  induction l with
  | nil => exact .nil
  | cons a l ih =>
    cases ha : f a with
    | none => simpa [ha] using ih
    | some b =>
      rw [List.filter_cons_of_pos (by simp [ha]), List.filterMap_cons_some ha]
      exact .cons ha ih

theorem pairwise_brokenRules (hs : s.InOrder) : (brokenRules s).Pairwise Rule.Before :=
  (pairwise_rules hs).filter _

theorem forall₂_reports (hs : s.InOrder) :
    List.Forall₂ (Reports s) (brokenRules s) (violations s) := by
  rw [violations_eq hs, brokenRules]
  apply (forall₂_filterMap _ _).imp
  intro r v h
  exact (violation?_eq_some_iff hs).mp h

theorem violations_eq_brokenRules (hs : s.InOrder) :
    violations s = (brokenRules s).filterMap (·.violation? s) := by
  rw [violations_eq hs, brokenRules, List.filterMap_filter]
  apply List.filterMap_congr
  intro r _
  cases r.violation? s with
  | none => rfl
  | some v => rfl

theorem validate_eq_outcome (s : Settings) : validate s = outcome (violations s) := rfl

theorem outcome_eq_ok_iff : outcome vs = .ok () ↔ vs = [] := by
  cases vs with
  | nil => exact iff_of_true rfl rfl
  | cons v vs => exact iff_of_false nofun nofun

theorem validate_eq_ok_iff : validate s = .ok () ↔ violations s = [] := outcome_eq_ok_iff

theorem sound_iff : Sound s ↔ ∀ r v, ¬ Reports s r v := by
  constructor
  · intro hs r v h
    cases h with
    | defaultModel h => exact hs.defaultModel h
    | baseUrl provider url hmem h => exact h (hs.baseUrls (provider, url) hmem)
    | dailyCap cap hcap h => exact h (hs.dailyCap cap hcap)
    | monthlyCap cap hcap h => exact h (hs.monthlyCap cap hcap)
    | analyticsPath path hpath h => exact hs.analyticsPath path hpath h
  · intro h
    constructor
    · intro hmodel
      exact h _ _ (.defaultModel hmodel)
    · intro entry hmem
      by_contra haddress
      exact h _ _ (.baseUrl entry.1 entry.2 hmem haddress)
    · intro cap hcap
      by_contra hamount
      exact h _ _ (.dailyCap cap hcap hamount)
    · intro cap hcap
      by_contra hamount
      exact h _ _ (.monthlyCap cap hcap hamount)
    · intro path hpath hblank
      exact h _ _ (.analyticsPath path hpath hblank)

theorem validate_eq_ok_iff_sound (hs : s.InOrder) : validate s = .ok () ↔ Sound s := by
  have hnone : violations s = [] ↔ brokenRules s = [] := by
    rw [← List.length_eq_zero_iff, ← List.length_eq_zero_iff, (forall₂_reports hs).length_eq]
  rw [validate_eq_ok_iff, hnone, sound_iff, List.eq_nil_iff_forall_not_mem]
  simp only [mem_brokenRules hs, not_exists]

theorem AlikeBut.violation?_eq (h : AlikeBut r s s') (hne : r' ≠ r) :
    r'.violation? s = r'.violation? s' := by
  cases r' with
  | defaultModel => rw [Rule.violation?, Rule.violation?, h.defaultModel hne.symm]
  | baseUrl provider => rw [Rule.violation?, Rule.violation?, h.baseUrl provider hne.symm]
  | dailyCap => rw [Rule.violation?, Rule.violation?, h.dailyCap hne.symm]
  | monthlyCap => rw [Rule.violation?, Rule.violation?, h.monthlyCap hne.symm]
  | analyticsPath => rw [Rule.violation?, Rule.violation?, h.analyticsPath hne.symm]

/-- A repair takes one rule out of the list of the broken ones. -/
theorem brokenRules_repair (hs : s.InOrder) (hs' : s'.InOrder) (h : AlikeBut r s s')
    (hrepair : ∀ v, ¬ Reports s' r v) {before after : List Rule}
    (he : brokenRules s = before ++ r :: after) : brokenRules s' = before ++ after := by
  have hpairs := pairwise_brokenRules hs
  rw [he] at hpairs
  have hfew : (before ++ after).Sublist (before ++ r :: after) :=
    List.Sublist.append_left (List.sublist_cons_self r after) before
  apply eq_of_mem_iff (pairwise_brokenRules hs') (hpairs.sublist hfew)
  intro r'
  have hnotin : r ∉ before ++ after := by
    have hnodup := nodup_of_pairwise hpairs
    exact (List.nodup_cons.mp (List.perm_middle.nodup_iff.mp hnodup)).1
  by_cases hr : r' = r
  · subst hr
    refine iff_of_false ?_ hnotin
    rw [mem_brokenRules hs']
    rintro ⟨v, hv⟩
    exact hrepair v hv
  · have hbroken : r' ∈ brokenRules s' ↔ r' ∈ brokenRules s := by
      simp only [mem_brokenRules hs, mem_brokenRules hs', ← violation?_eq_some_iff hs,
        ← violation?_eq_some_iff hs', h.violation?_eq hr]
    rw [hbroken, he]
    simp [hr]

/-- What is said of the other rules stays, before it and after it. -/
theorem exists_violations_repair (hs : s.InOrder) (hs' : s'.InOrder) (h : AlikeBut r s s')
    (hrepair : ∀ w, ¬ Reports s' r w) (hr : Reports s r v) :
    ∃ before after, violations s = before ++ v :: after ∧ violations s' = before ++ after := by
  have hmem : r ∈ brokenRules s := (mem_brokenRules hs).mpr ⟨v, hr⟩
  obtain ⟨before, after, he⟩ := List.append_of_mem hmem
  have he' := brokenRules_repair hs hs' h hrepair he
  have hv : r.violation? s = some v := (violation?_eq_some_iff hs).mpr hr
  refine ⟨before.filterMap (·.violation? s), after.filterMap (·.violation? s), ?_, ?_⟩
  · rw [violations_eq_brokenRules hs, he, List.filterMap_append, List.filterMap_cons_some hv]
  · rw [violations_eq_brokenRules hs', he', ← List.filterMap_append]
    apply List.filterMap_congr
    intro r' hr'
    have hne : r' ≠ r := by
      intro heq
      subst heq
      rw [← he'] at hr'
      obtain ⟨w, hw⟩ := (mem_brokenRules hs').mp hr'
      exact hrepair w hw
    exact (h.violation?_eq hne).symm

/-- Settings are accepted if they keep all rules. Otherwise there is one error for each rule that is
broken, in the order of the rules, and none else. To mend a single rule takes its error out of
them, and the others stay as they are. -/
theorem each_broken_rule_reported (hs : s.InOrder) :
    (validate s = .ok () ↔ Sound s) ∧
      (∃ rs vs, rs.Pairwise Rule.Before ∧ (∀ r, r ∈ rs ↔ ∃ v, Reports s r v) ∧
        List.Forall₂ (Reports s) rs vs ∧ validate s = outcome vs) ∧
      ∀ r v s', Reports s r v → s'.InOrder → AlikeBut r s s' → (∀ w, ¬ Reports s' r w) →
        ∃ before after, validate s = outcome (before ++ v :: after) ∧
          validate s' = outcome (before ++ after) := by
  refine ⟨validate_eq_ok_iff_sound hs, ⟨brokenRules s, violations s, pairwise_brokenRules hs,
    fun r => mem_brokenRules hs, forall₂_reports hs, validate_eq_outcome s⟩, ?_⟩
  intro r v s' hr hs' halike hrepair
  obtain ⟨before, after, he, he'⟩ := exists_violations_repair hs hs' halike hrepair hr
  refine ⟨before, after, ?_, ?_⟩
  · rw [validate_eq_outcome, he]
  · rw [validate_eq_outcome, he']

/-- Four rules are broken here. The monthly cap is negative zero, which is an amount. -/
def faultySettings : Settings where
  providers := {
    defaultModel := " \t"
    baseUrls := [("ollama", "localhost:11434"), ("openai", " https://api.openai.com ")] }
  routing := {
    budget := { dailyCap := some (0.0 / 0.0), monthlyCap := some (-0.0) }
    analytics := { path := some "" } }

/-- The same settings without the address that is none. -/
def mendedSettings : Settings :=
  { faultySettings with providers.baseUrls := [("openai", " https://api.openai.com ")] }

example : violations faultySettings =
    [.defaultModelBlank, .notAnAddress "ollama" "localhost:11434",
      .capNotAmount "daily_cap_usd" (0.0 / 0.0), .analyticsPathBlank] := by rfl

theorem each_broken_rule_reported_mended :
    faultySettings.InOrder ∧ mendedSettings.InOrder ∧
      Reports faultySettings (.baseUrl "ollama") (.notAnAddress "ollama" "localhost:11434") ∧
      AlikeBut (.baseUrl "ollama") faultySettings mendedSettings ∧
      (∀ w, ¬ Reports mendedSettings (.baseUrl "ollama") w) ∧ ¬ Sound mendedSettings ∧
      ∃ before after,
        validate faultySettings =
          outcome (before ++ .notAnAddress "ollama" "localhost:11434" :: after) ∧
        validate mendedSettings = outcome (before ++ after) := by
  have hs : faultySettings.InOrder := by
    have hbefore : "ollama" < "openai" := by decide
    exact List.pairwise_pair.mpr hbefore
  have hs' : mendedSettings.InOrder := List.pairwise_singleton ..
  have hreports : Reports faultySettings (.baseUrl "ollama")
      (.notAnAddress "ollama" "localhost:11434") := by
    rw [← violation?_eq_some_iff hs]
    rfl
  have halike : AlikeBut (.baseUrl "ollama") faultySettings mendedSettings := by
    refine ⟨fun _ => rfl, ?_, fun _ => rfl, fun _ => rfl, fun _ => rfl⟩
    intro provider hne
    have hother : (provider == "ollama") = false := by
      rw [beq_eq_false_iff_ne]
      rintro rfl
      exact hne rfl
    simp [faultySettings, mendedSettings, List.lookup_cons, hother]
  have hmended : ∀ w, ¬ Reports mendedSettings (.baseUrl "ollama") w := by
    intro w
    rw [← violation?_eq_some_iff hs']
    exact nofun
  have hfaulty : ¬ Sound mendedSettings := by
    rw [← (each_broken_rule_reported hs').1]
    exact nofun
  obtain ⟨-, -, hmend⟩ := each_broken_rule_reported hs
  exact ⟨hs, hs', hreports, halike, hmended, hfaulty, hmend _ _ _ hreports hs' halike hmended⟩

end Config
end TierRouting
