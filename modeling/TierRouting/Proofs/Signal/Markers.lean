import Mathlib.Data.List.Basic
import TierRouting.Proofs.Text.Matching
import TierRouting.Proofs.Text.Splitting
import TierRouting.Signal.Table

/-! Pieces of words that tell demanding messages from small talk. -/
namespace TierRouting.Phrases

open Text Text.Pattern

variable {a b : Pattern} {ps : List Pattern} {c : Char} {u v g text : List Char} {s : String}

/-- Every demanding phrase contains one of these, and no small talk does. -/
def markers : List (List Char) :=
  ["view", "design", "scratch", "dive", "comprehensive", "depth", "paper", "rfc", "refactor",
    "debug", "implement", "optimi", "trade", "cons", "compar", "contrast", "step", "explain", "if",
    "\x60", "?", "descent", "backprop", "transformer", "mechanism", "embedding", "tun", "fitting",
    "regular", "kube", "k8s", "terraform", "micro", "system", "balanc", "shard", "through",
    "condition"].map String.toList

def Telling (u : List Char) : Prop := ∃ w ∈ markers, w <:+: u

instance : DecidablePred Telling :=
  fun u => inferInstanceAs (Decidable (∃ w ∈ markers, w <:+: u))

theorem marker_ne_nil : ∀ w ∈ markers, w ≠ [] := by decide

theorem any_isFlourish_of_marker : ∀ w ∈ markers, w.any isFlourish = false := by decide

theorem Telling.mono (h : Telling u) (hv : u <:+: v) : Telling v := by
  obtain ⟨w, hw, hinfix⟩ := h
  exact ⟨w, hw, hinfix.trans hv⟩

theorem not_telling_nil : ¬ Telling [] := by
  rintro ⟨w, hw, hinfix⟩
  exact marker_ne_nil w hw (List.infix_nil.mp hinfix)

/-- No marker reaches across what separates words. -/
theorem telling_append_cons_iff (hc : isFlourish c = true) :
    Telling (u ++ c :: v) ↔ Telling u ∨ Telling v := by
  have hmem : ∀ w ∈ markers, c ∉ w := by
    intro w hw h
    exact List.any_eq_false.mp (any_isFlourish_of_marker w hw) c h hc
  constructor
  · rintro ⟨w, hw, hinfix⟩
    exact ((infix_append_sep_iff (hmem w hw)).mp hinfix).imp (⟨w, hw, ·⟩) (⟨w, hw, ·⟩)
  · rintro (h | h)
    · exact h.mono (List.prefix_append u _).isInfix
    · exact h.mono ((List.suffix_cons c v).trans (List.suffix_append u _)).isInfix

theorem telling_flourish_append_iff (hg : ∀ c ∈ g, isFlourish c = true) :
    Telling (g ++ v) ↔ Telling v := by
  induction g with
  | nil => rfl
  | cons c g ih =>
    have hstep := telling_append_cons_iff (u := []) (v := g ++ v) (hg c List.mem_cons_self)
    rw [List.cons_append, ← List.nil_append (c :: (g ++ v)), hstep,
      ih fun d hd => hg d (List.mem_cons_of_mem c hd), or_iff_right not_telling_nil]

theorem telling_append_flourish_iff (hg : ∀ c ∈ g, isFlourish c = true) :
    Telling (u ++ g) ↔ Telling u := by
  cases g with
  | nil => rw [List.append_nil]
  | cons c g =>
    have hrest := telling_flourish_append_iff (v := []) fun d hd => hg d (List.mem_cons_of_mem c hd)
    rw [telling_append_cons_iff (hg c List.mem_cons_self), ← List.append_nil g, hrest,
      or_iff_left not_telling_nil]

theorem forces_spaced {P : List Char → Prop} (hP : ∀ ⦃u v⦄, P u → u <:+: v → P v) (ha : a ∈ ps)
    (h : Forces P a) : Forces P (spaced ps) := by
  induction ps with
  | nil => simp at ha
  | cons b ps ih =>
    cases ps with
    | nil =>
      obtain rfl := List.mem_singleton.mp ha
      exact h
    | cons d ps =>
      rcases List.mem_cons.mp ha with rfl | ha
      · exact (h.left hP gap).left hP (spaced (d :: ps))
      · exact (ih ha).right hP (b ++ gap)

/-- No text that the pattern spells has a marker. -/
def Plain (a : Pattern) : Prop := ∀ u, a.Spells u → ¬ Telling u

/-- Every text that the pattern spells has one. -/
def Carries (a : Pattern) : Prop := ∀ u, a.Spells u → Telling u

theorem isFlourish_of_spells_gap (h : gap.Spells g) : ∀ c ∈ g, isFlourish c = true := by
  intro c hc
  have hblank : isBlank c = true := h.2 c hc
  simp [isFlourish, hblank]

theorem plain_word (h : ¬ Telling s.toList) : Plain s := forces_chars h

theorem plain_anyOf (h : ∀ a ∈ ps, Plain a) : Plain (anyOf ps) := forces_anyOf h

theorem plain_gap (ha : Plain a) (hb : Plain b) : Plain (a ++ gap ++ b) := by
  rintro _ ⟨_, v, ⟨u, g, hu, hg, rfl⟩, hv, rfl⟩
  obtain ⟨c, g, rfl⟩ : ∃ c r, g = c :: r := List.exists_cons_of_length_pos hg.1
  have hflourish := isFlourish_of_spells_gap hg
  rw [List.append_assoc, List.cons_append,
    telling_append_cons_iff (hflourish c List.mem_cons_self),
    telling_flourish_append_iff fun d hd => hflourish d (List.mem_cons_of_mem c hd)]
  exact not_or_intro (ha u hu) (hb v hv)

theorem plain_optional_gap (ha : Plain a) (hb : Plain b) : Plain (a ++ optional (gap ++ b)) := by
  rintro _ ⟨u, v, hu, hv | rfl, rfl⟩
  · obtain ⟨g, w, hg, hw, rfl⟩ := hv
    rw [← List.append_assoc]
    exact plain_gap ha hb _ ⟨u ++ g, w, ⟨u, g, hu, hg, rfl⟩, hw, rfl⟩
  · rw [List.append_nil]
    exact ha u hu

/-- The phrase of some words. -/
def phrase (ws : List String) : Pattern := spaced (ws.map fun s => chars s.toList)

theorem plain_phrase {ws : List String} (h : ∀ s ∈ ws, ¬ Telling s.toList) : Plain (phrase ws) := by
  induction ws with
  | nil =>
    intro u hu
    obtain rfl : u = [] := hu
    exact not_telling_nil
  | cons s ws ih =>
    have hs : Plain s := plain_word (h s List.mem_cons_self)
    cases ws with
    | nil => exact hs
    | cons t ws => exact plain_gap hs (ih fun r hr => h r (List.mem_cons_of_mem s hr))

theorem plain_phrases {wss : List (List String)} (h : ∀ ws ∈ wss, ∀ s ∈ ws, ¬ Telling s.toList) :
    ∀ a ∈ wss.map phrase, Plain a := by
  intro a ha
  obtain ⟨ws, hws, rfl⟩ := List.mem_map.mp ha
  exact plain_phrase (h ws hws)

/-- A message that is plain but for its closing flourishes has no marker. -/
theorem not_telling_of_alone (ha : Plain a) (h : (alone a).occursIn text = true) :
    ¬ Telling text := by
  rw [Pattern.occursIn, searchFrom_iff] at h
  obtain ⟨u, r, e, rfl, he⟩ := h
  obtain ⟨last, hlast, hfinish⟩ := List.mem_flatMap.mp he
  obtain ⟨behind, hbehind, hclosing⟩ := List.mem_flatMap.mp hlast
  obtain ⟨first, hstart, hbody⟩ := List.mem_flatMap.mp hbehind
  obtain ⟨hfirst, rfl⟩ := mem_ends_edge.mp hstart
  obtain ⟨hend, -⟩ := mem_ends_edge.mp hfinish
  -- The match starts where the text does and ends where it ends: nothing stands outside it.
  obtain ⟨v, hv, hr⟩ := exists_spells_of_mem_ends hbody
  obtain ⟨g, hg, hrest⟩ := exists_spells_of_mem_ends hclosing
  obtain rfl : u = [] := by simpa [Edge.holds] using hfirst
  have hnil : last.rest = [] := List.isEmpty_iff.mp hend
  have htext : r = v ++ g := hr.trans (by rw [hrest, hnil, List.append_nil])
  rw [List.nil_append, htext, telling_append_flourish_iff hg.2]
  exact ha v hv

theorem not_telling_of_greeting (h : greeting.occursIn text = true) : ¬ Telling text := by
  have hwords : ∀ a ∈ [["hi"], ["hello"], ["hey"], ["heya"], ["hiya"], ["yo"], ["sup"], ["howdy"],
      ["hola"], ["gm"], ["morning"]].map phrase, Plain a := plain_phrases (by decide +kernel)
  have htimes : ∀ a ∈ [["morning"], ["afternoon"], ["evening"]].map phrase, Plain a :=
    plain_phrases (by decide +kernel)
  have hgood := plain_gap (plain_word (by decide +kernel : ¬ Telling "good".toList))
    (plain_anyOf htimes)
  have hall := List.forall_mem_append.mpr ⟨hwords, List.forall_mem_singleton.mpr hgood⟩
  have hthere := plain_word (by decide +kernel : ¬ Telling "there".toList)
  exact not_telling_of_alone (plain_optional_gap (plain_anyOf hall) hthere) h

theorem plain_laughter : Plain (("hah" : Pattern) ++ many1 (· == 'a')) := by
  rintro _ ⟨u, v, hu, hv, rfl⟩ ⟨w, hw, hwithin⟩
  have hother : ∀ w ∈ markers, w.any (fun c => c ≠ 'h' ∧ c ≠ 'a') = true := by decide
  obtain ⟨c, hc, hne⟩ := List.any_eq_true.mp (hother w hw)
  obtain ⟨hh, ha⟩ := of_decide_eq_true hne
  rcases List.mem_append.mp (hwithin.subset hc) with hmem | hmem
  · rw [(spells_chars _).mp hu] at hmem
    simp [hh, ha] at hmem
  · exact ha (by simpa using hv.2 c hmem)

theorem not_telling_of_acknowledgement (h : acknowledgement.occursIn text = true) :
    ¬ Telling text := by
  have hbefore : ∀ a ∈ [["ok"], ["okay"], ["k"], ["kk"], ["sure"], ["cool"], ["nice"], ["great"],
      ["awesome"], ["perfect"], ["noted"], ["got", "it"], ["sounds", "good"], ["thanks"],
      ["thank", "you"], ["thanks", "a", "lot"], ["thank", "you", "so", "much"], ["thx"], ["ty"],
      ["cheers"], ["lol"]].map phrase, Plain a := plain_phrases (by decide +kernel)
  have hbehind : ∀ a ∈ [["np"], ["no", "problem"], ["no", "worries"]].map phrase, Plain a :=
    plain_phrases (by decide +kernel)
  have hall := List.forall_mem_append.mpr
    ⟨hbefore, List.forall_mem_cons.mpr ⟨plain_laughter, hbehind⟩⟩
  exact not_telling_of_alone (plain_anyOf hall) h

theorem not_telling_of_yesNo (h : yesNo.occursIn text = true) : ¬ Telling text := by
  have hall : ∀ a ∈ [["yes"], ["no"], ["yep"], ["yup"], ["nope"], ["yeah"], ["yea"], ["nah"], ["y"],
      ["n"], ["of", "course"]].map phrase, Plain a := plain_phrases (by decide +kernel)
  exact not_telling_of_alone (plain_anyOf hall) h

theorem not_telling_of_farewell (h : farewell.occursIn text = true) : ¬ Telling text := by
  have hall : ∀ a ∈ [["bye"], ["bye", "bye"], ["goodbye"], ["see", "ya"], ["see", "you"], ["later"],
      ["cya"], ["good", "night"], ["gn"], ["night"]].map phrase, Plain a :=
    plain_phrases (by decide +kernel)
  exact not_telling_of_alone (plain_anyOf hall) h

theorem Telling.carries (h : Telling s.toList) : Carries s := forces_chars h

theorem Carries.left (h : Carries a) (b : Pattern) : Carries (a ++ b) :=
  Forces.left (fun _ _ => Telling.mono) h b

theorem Carries.right (h : Carries b) (a : Pattern) : Carries (a ++ b) :=
  Forces.right (fun _ _ => Telling.mono) h a

theorem carries_anyOf (h : ∀ a ∈ ps, Carries a) : Carries (anyOf ps) := forces_anyOf h

theorem carries_spaced (ha : a ∈ ps) (h : Carries a) : Carries (spaced ps) :=
  forces_spaced (fun _ _ => Telling.mono) ha h

theorem Telling.of_occursIn (ha : Carries a) (h : a.occursIn text = true) : Telling text :=
  Forces.of_occursIn (fun _ _ => Telling.mono) ha h

theorem carries_technicalJargon : Carries technicalJargon := by
  have hwords : ∀ s ∈ ["descent", "backprop", "transformer", "mechanism", "embedding", "tun",
      "overfitting", "regularization", "kubernetes", "k8s", "terraform", "microservice", "system",
      "balanc", "sharding", "consensus", "throughput", "condition"], Telling s.toList := by
    decide +kernel
  obtain ⟨hdescent, hbackprop, htransformer, hmechanism, hembedding, htun, hoverfitting,
    hregularization, hkubernetes, hk8s, hterraform, hmicroservice, hsystem, hbalanc, hsharding,
    hconsensus, hthroughput, hcondition⟩ := List.forall_iff_forall_mem.mpr hwords
  refine ((carries_anyOf ?_).right _).left _
  rw [← List.forall_iff_forall_mem]
  exact ⟨carries_spaced (.tail _ (.head _)) hdescent.carries, hbackprop.carries.left _,
    htransformer.carries.left _, carries_spaced (.tail _ (.head _)) hmechanism.carries,
    hembedding.carries.left _, (htun.carries.right _).left _, hoverfitting.carries,
    hregularization.carries, hkubernetes.carries, hk8s.carries, hterraform.carries,
    hmicroservice.carries.left _, (carries_spaced (.tail _ (.head _)) hsystem.carries).left _,
    (hbalanc.carries.right _).left _, hsharding.carries, hconsensus.carries, hthroughput.carries,
    carries_spaced (.tail _ (.head _)) hcondition.carries⟩

/-- The rule seeks a phrase that stays where it is when a message goes on, and that marks the
message. -/
def Demands (r : Rule) : Prop :=
  ∃ a, r.test = .phrase a ∧ a.isOpenEnded = true ∧ Carries a

theorem demands_flagship : ∀ r ∈ Stage.flagship.rules, Demands r := by
  have hwords : ∀ s ∈ ["interview", "design", "scratch", "review", "dive", "comprehensive",
      "depth", "paper", "rfc"], Telling s.toList := by decide +kernel
  obtain ⟨hinterview, hdesign, hscratch, hreview, hdive, hcomprehensive, hdepth, hpaper, hrfc⟩ :=
    List.forall_iff_forall_mem.mpr hwords
  have hpapers : ∀ a ∈ [
      wordEdge ++ optional ("research" ++ gap) ++ spaced ["paper", "review"] ++ wordEdge,
      wordEdge ++ "review" ++ gap ++ anyOf ["this", "the", "a", "my"] ++ gap ++
        optional ("research" ++ gap) ++ "paper" ++ wordEdge], Carries a := by
    rw [← List.forall_iff_forall_mem]
    exact ⟨((carries_spaced (.head _) hpaper.carries).right _).left _,
      (hpaper.carries.right _).left _⟩
  rw [← List.forall_iff_forall_mem]
  exact ⟨⟨_, rfl, rfl, hinterview.carries.right _⟩,
    ⟨_, rfl, rfl, (carries_spaced (.tail _ (.head _)) hdesign.carries).right _⟩,
    ⟨_, rfl, rfl, ((carries_spaced (.tail _ (.head _)) hscratch.carries).right _).left _⟩,
    ⟨_, rfl, rfl, (carries_spaced (.tail _ (.head _)) hreview.carries).right _⟩,
    ⟨_, rfl, rfl, hdive.carries.right _⟩,
    ⟨_, rfl, rfl, ((hcomprehensive.carries.right _).left _).left _⟩,
    ⟨_, rfl, rfl, (hdepth.carries.right _).left _⟩,
    ⟨_, rfl, rfl, carries_anyOf hpapers⟩,
    ⟨_, rfl, rfl, ((hrfc.carries.right _).left _).left _⟩⟩

/-- The rules of the complex stage that seek phrases of their own, ahead of those that count. -/
theorem demands_complex : ∀ r ∈ Stage.complex.rules.take 14, Demands r := by
  have hwords : ∀ s ∈ ["design", "review", "refactor", "debug", "implement", "optimi", "trade",
      "cons", "step", "explain", "if", "\x60\x60\x60", "compare", "comparing", "comparison",
      "contrast"], Telling s.toList := by decide +kernel
  obtain ⟨hdesign, hreview, hrefactor, hdebug, himplement, hoptimi, htrade, hcons, hstep, hexplain,
    hif, hfence, hcompare⟩ := List.forall_iff_forall_mem.mpr hwords
  have hcomparing : ∀ a ∈ ["compare", "comparing", "comparison", "contrast"].map
      fun s => chars s.toList, Carries a := by
    intro a ha
    obtain ⟨s, hs, rfl⟩ := List.mem_map.mp ha
    exact (List.forall_iff_forall_mem.mp hcompare s hs).carries
  rw [← List.forall_iff_forall_mem]
  exact ⟨
    ⟨_, rfl, rfl, ((carries_spaced (.tail _ (.head _)) hdesign.carries).right _).left _⟩,
    ⟨_, rfl, rfl, ((carries_spaced (.tail _ (.head _)) hreview.carries).right _).left _⟩,
    ⟨_, rfl, rfl, hrefactor.carries.right _⟩,
    ⟨_, rfl, rfl, hdebug.carries.right _⟩,
    ⟨_, rfl, rfl, himplement.carries.right _⟩,
    ⟨_, rfl, rfl, (hoptimi.carries.right _).left _⟩,
    ⟨_, rfl, rfl, ((((htrade.carries.right _).left _).left _).left _).left _⟩,
    ⟨_, rfl, rfl, ((carries_spaced (.tail _ (.tail _ (.head _))) hcons.carries).right _).left _⟩,
    ⟨_, rfl, rfl, ((carries_anyOf hcomparing).right _).left _⟩,
    ⟨_, rfl, rfl, (hstep.carries.right _).left _⟩,
    ⟨_, rfl, rfl, ((carries_spaced (.head _) hexplain.carries).right _).left _⟩,
    ⟨_, rfl, rfl, ((carries_spaced (.tail _ (.tail _ (.tail _ (.head _)))) hif.carries).right
      _).left _⟩,
    ⟨_, rfl, rfl, hfence.carries.right _⟩,
    ⟨_, rfl, rfl, carries_technicalJargon⟩⟩

end TierRouting.Phrases
