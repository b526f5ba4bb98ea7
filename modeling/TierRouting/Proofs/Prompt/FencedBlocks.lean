import TierRouting.Proofs.Prompt.Headers

/-! The fenced blocks of a text as a whole, and the headers outside of them. A scan that goes
through the text with one fence in mind finds these headers. -/
namespace TierRouting.Prompt

open Text

variable {state : Option Fence} {f g : Fence} {c : Char} {t : List Char} {l rest : Line}
  {ls : List Line} {i j k : Nat}

/-- The line starts with as many marks as the fence is wide and no more, blanks before them apart,
and goes on with `rest`. -/
def Fence.Leads (f : Fence) (rest l : Line) : Prop :=
  f.mark ∉ rest.head? ∧
    ∃ indent, allBlank indent = true ∧ l = indent ++ List.replicate f.width f.mark ++ rest

/-- What may stand behind the marks of a line that opens a block. -/
def Fence.Allows (f : Fence) (info : Line) : Prop :=
  f.mark = backtick ∧ backtick ∉ info ∨ f.mark = '~' ∧ ¬ "~~~".toList <:+: info

/-- The line starts with three or more backticks or tildes and a text that they allow. -/
def Fence.Opens (f : Fence) (l : Line) : Prop :=
  3 ≤ f.width ∧ ∃ info, f.Leads info l ∧ f.Allows info

/-- The line is a bare run of the same character that is as long or longer. -/
def Fence.Closes (f : Fence) (l : Line) : Prop :=
  ∃ n rest, f.width ≤ n ∧ allBlank rest = true ∧ Fence.Leads ⟨f.mark, n⟩ rest l

/-- The line has one to six hashes, blanks before them apart, and then a space, a tab or nothing.
The title is what follows the hashes. -/
def IsHeader (t : List Char) (l : Line) : Prop :=
  ∃ indent n rest, allBlank indent = true ∧ 1 ≤ n ∧ n ≤ 6 ∧
    l = indent ++ List.replicate n '#' ++ rest ∧ (∀ c ∈ rest.head?, c = ' ' ∨ c = '\t') ∧
    t = trim rest

/-- A block that starts at line `j` reaches line `i`: none of the lines between closes it. -/
def Reaches (ls : List Line) (f : Fence) (j i : Nat) : Prop :=
  j ≤ i ∧ ∀ k, j < k → k < i → ∀ l ∈ ls[k]?, ¬ f.Closes l

/-- A block starts at a line that opens one and that no earlier block reaches. -/
def StartsBlock (ls : List Line) (f : Fence) (i : Nat) : Prop :=
  (∃ l ∈ ls[i]?, f.Opens l) ∧ ∀ g j, j < i → StartsBlock ls g j → ¬ Reaches ls g j i
termination_by i

/-- A block is all lines that it reaches. -/
def InBlock (ls : List Line) (i : Nat) : Prop := ∃ f j, StartsBlock ls f j ∧ Reaches ls f j i

theorem Fence.leads_iff (hmark : isBlank f.mark = false) (hwidth : 0 < f.width) :
    f.Leads rest l ↔
      f.mark ∉ rest.head? ∧ trimStart l = List.replicate f.width f.mark ++ rest := by
  rw [Fence.Leads, trimStart_eq_run_iff hmark hwidth]

theorem isBlank_mark (h : c = backtick ∨ c = '~') : isBlank c = false := by
  rcases h with rfl | rfl
  · decide
  · decide

theorem marker?_eq_some_iff : marker? l = some (f, rest) ↔
    (f.mark = backtick ∨ f.mark = '~') ∧ 3 ≤ f.width ∧ f.Leads rest l := by
  constructor
  · intro h
    rw [marker?] at h
    split at h
    · contradiction
    next c r hl =>
      dsimp only at h
      split at h
      · next hc =>
        cases h
        refine ⟨hc.1, hc.2, (Fence.leads_iff (isBlank_mark hc.1) (by simp only; omega)).mpr ?_⟩
        refine ⟨not_mem_head?_dropWhile c (c :: r), ?_⟩
        rw [hl, ← takeWhile_eq_replicate, List.takeWhile_append_dropWhile]
      · contradiction
  · rintro ⟨hmark, hwidth, h⟩
    obtain ⟨hrest, hl⟩ := (Fence.leads_iff (isBlank_mark hmark) (by omega)).mp h
    obtain ⟨n, hn⟩ : ∃ n, f.width = n + 1 := ⟨f.width - 1, by omega⟩
    have hcons : trimStart l = f.mark :: (List.replicate n f.mark ++ rest) := by
      rw [hl, hn, List.replicate_succ, List.cons_append]
    have htake := takeWhile_replicate_append f.width hrest
    have hdrop := dropWhile_replicate_append f.width hrest
    rw [hn, List.replicate_succ, List.cons_append] at htake hdrop
    have hlength : (f.mark :: List.replicate n f.mark).length = f.width := by
      rw [List.length_cons, List.length_replicate, hn]
    rw [marker?, hcons]
    simp only [htake, hdrop, hlength]
    rw [if_pos ⟨hmark, hwidth⟩]

theorem admits_iff (h : f.mark = backtick ∨ f.mark = '~') (info : Line) :
    f.admits info = true ↔ f.Allows info := by
  have hne : backtick ≠ '~' := by decide
  rcases h with h | h
  · simp [Fence.admits, Fence.Allows, h, hne]
  · simp [Fence.admits, Fence.Allows, h, hne.symm, ← occursIn_iff]

theorem opened?_eq_some_iff : opened? l = some f ↔ f.Opens l := by
  constructor
  · intro h
    rw [opened?] at h
    split at h
    next g info hmarker =>
      obtain ⟨hmark, hwidth, hleads⟩ := marker?_eq_some_iff.mp hmarker
      split at h
      · next hadmits =>
        cases h
        exact ⟨hwidth, info, hleads, (admits_iff hmark info).mp hadmits⟩
      · contradiction
    · contradiction
  · rintro ⟨hwidth, info, hleads, hallows⟩
    have hmark : f.mark = backtick ∨ f.mark = '~' := hallows.imp And.left And.left
    rw [opened?, marker?_eq_some_iff.mpr ⟨hmark, hwidth, hleads⟩]
    exact if_pos ((admits_iff hmark info).mpr hallows)

theorem Fence.Opens.mark (h : f.Opens l) : f.mark = backtick ∨ f.mark = '~' := by
  obtain ⟨-, info, -, hallows⟩ := h
  exact hallows.imp And.left And.left

theorem Fence.Opens.isClosedBy_iff {k : Line} (h : f.Opens k) :
    f.isClosedBy l = true ↔ f.Closes l := by
  constructor
  · intro hclosed
    rw [Fence.isClosedBy] at hclosed
    split at hclosed
    next g rest hmarker =>
      obtain ⟨-, -, hleads⟩ := marker?_eq_some_iff.mp hmarker
      simp only [Bool.and_eq_true, beq_iff_eq, decide_eq_true_eq] at hclosed
      obtain ⟨⟨hmark, hwidth⟩, hrest⟩ := hclosed
      refine ⟨g.width, rest, hwidth, hrest, ?_⟩
      rw [← hmark]
      exact hleads
    · contradiction
  · rintro ⟨n, rest, hn, hrest, hleads⟩
    have hwidth := h.1
    have hmarker : marker? l = some (⟨f.mark, n⟩, rest) :=
      marker?_eq_some_iff.mpr ⟨h.mark, by simp only; omega, hleads⟩
    rw [Fence.isClosedBy, hmarker]
    simp [hn, hrest]

theorem title?_eq_some_iff : title? l = some t ↔ IsHeader t l := by
  constructor
  · intro h
    obtain ⟨n, hn⟩ : ∃ n, ((trimStart l).takeWhile (· == '#')).length = n := ⟨_, rfl⟩
    have hl : trimStart l = List.replicate n '#' ++ (trimStart l).drop n := by
      have hsplit := List.takeWhile_append_dropWhile (p := (· == '#')) (l := trimStart l)
      have hrun := takeWhile_eq_replicate '#' (trimStart l)
      rw [hn] at hrun
      rw [hrun] at hsplit
      have hdrop := congrArg (List.drop n) hsplit
      rw [List.drop_left' List.length_replicate] at hdrop
      rw [← hdrop, hsplit]
    rw [title?] at h
    simp only [hn] at h
    split at h
    · contradiction
    next hrange =>
      obtain ⟨indent, hindent, he⟩ :=
        (trimStart_eq_run_iff (c := '#') (by decide) (by omega)).mp hl
      refine ⟨indent, n, (trimStart l).drop n, hindent, by omega, by omega, he, ?_⟩
      split at h
      · next hnil =>
        cases h
        rw [hnil]
        exact ⟨by simp, rfl⟩
      · next c r hcons =>
        split at h
        · next hc =>
          cases h
          rw [hcons]
          refine ⟨?_, rfl⟩
          rintro d ⟨⟩
          exact hc
        · contradiction
  · rintro ⟨indent, n, rest, hindent, hone, hsix, rfl, hrest, rfl⟩
    have hhash : '#' ∉ rest.head? := by
      intro h
      have := hrest '#' h
      contradiction
    have hl := (trimStart_eq_run_iff (c := '#') (t := rest) (by decide) hone).mpr
      ⟨indent, hindent, rfl⟩
    rw [title?, hl]
    simp only [takeWhile_replicate_append n hhash, List.length_replicate,
      List.drop_left' List.length_replicate]
    rw [if_neg (by omega)]
    cases rest with
    | nil => rfl
    | cons c r => exact if_pos (hrest c rfl)

theorem getElem?_markHeaders (state : Option Fence) (ls : List Line) (i : Nat) :
    (markHeaders state ls)[i]? =
      ls[i]?.map fun l => ((step (stateAfter state (ls.take i)) l).2, l) := by
  induction ls generalizing state i with
  | nil => rfl
  | cons k ls ih =>
    cases i with
    | zero => rfl
    | succ i => exact ih (step state k).1 i

theorem stateAfter_take_succ (hl : ls[k]? = some l) :
    stateAfter state (ls.take (k + 1)) = (step (stateAfter state (ls.take k)) l).1 := by
  rw [List.take_add_one, hl, stateAfter, List.foldl_append]
  rfl

theorem startsBlock_iff : StartsBlock ls f i ↔
    (∃ l ∈ ls[i]?, f.Opens l) ∧ ∀ g j, j < i → StartsBlock ls g j → ¬ Reaches ls g j i := by
  rw [StartsBlock]

theorem StartsBlock.opens (h : StartsBlock ls f i) : ∃ l ∈ ls[i]?, f.Opens l :=
  (startsBlock_iff.mp h).1

theorem Reaches.mono (h : Reaches ls f j i) (hjk : j ≤ k) (hki : k ≤ i) : Reaches ls f j k := by
  refine ⟨hjk, ?_⟩
  intro m hjm hmk
  exact h.2 m hjm (by omega)

theorem reaches_succ_iff (hjk : j < k) :
    Reaches ls f j (k + 1) ↔ Reaches ls f j k ∧ ∀ l ∈ ls[k]?, ¬ f.Closes l := by
  constructor
  · intro h
    exact ⟨h.mono (by omega) (by omega), h.2 k hjk (by omega)⟩
  · rintro ⟨h, hk⟩
    refine ⟨by omega, ?_⟩
    intro m hjm hmk
    by_cases he : m = k
    · subst he
      exact hk
    · exact h.2 m hjm (by omega)

theorem reaches_next : Reaches ls f k (k + 1) := by
  refine ⟨by omega, ?_⟩
  intro m hkm hmk
  omega

/-- The block that reaches the next line starts here, or comes from above and is not closed here. -/
theorem exists_block_succ_iff :
    (∃ j < k + 1, StartsBlock ls f j ∧ Reaches ls f j (k + 1)) ↔
      StartsBlock ls f k ∨
        (∃ j < k, StartsBlock ls f j ∧ Reaches ls f j k) ∧ ∀ l ∈ ls[k]?, ¬ f.Closes l := by
  constructor
  · rintro ⟨j, hj, hstart, hreach⟩
    by_cases he : j = k
    · subst he
      exact Or.inl hstart
    · obtain ⟨habove, hk⟩ := (reaches_succ_iff (by omega)).mp hreach
      exact Or.inr ⟨⟨j, by omega, hstart, habove⟩, hk⟩
  · rintro (hstart | ⟨⟨j, hj, hstart, hreach⟩, hk⟩)
    · exact ⟨k, by omega, hstart, reaches_next⟩
    · exact ⟨j, by omega, hstart, (reaches_succ_iff hj).mpr ⟨hreach, hk⟩⟩

theorem step_none_fst (l : Line) : (step none l).1 = opened? l := by
  rw [step]
  cases opened? l with
  | none => rfl
  | some f => rfl

/-- The fence that the scan has in mind is that of the block which reaches the next line. -/
theorem stateAfter_take_eq_some_iff (ls : List Line) (f : Fence) (k : Nat) :
    stateAfter none (ls.take k) = some f ↔
      ∃ j < k, StartsBlock ls f j ∧ Reaches ls f j k := by
  induction k generalizing f with
  | zero => exact iff_of_false nofun fun ⟨j, hj, _⟩ => absurd hj (by omega)
  | succ k ih =>
    rw [exists_block_succ_iff, ← ih f]
    cases hl : ls[k]? with
    | none =>
      -- Behind the end of the text no block starts and none is closed.
      have hend : ls.take (k + 1) = ls.take k := by rw [List.take_add_one, hl]; simp
      have hnot : ¬ StartsBlock ls f k := by
        intro h
        obtain ⟨l, hmem, -⟩ := h.opens
        simp [hl] at hmem
      simp [hend, hnot]
    | some l =>
      rw [stateAfter_take_succ hl]
      cases hs : stateAfter none (ls.take k) with
      | none =>
        have hnone : ∀ g j, j < k → StartsBlock ls g j → ¬ Reaches ls g j k := by
          intro g j hj hstart hreach
          have hsome := (ih g).mpr ⟨j, hj, hstart, hreach⟩
          rw [hs] at hsome
          contradiction
        rw [step_none_fst, opened?_eq_some_iff, startsBlock_iff, hl]
        constructor
        · intro h
          exact Or.inl ⟨⟨l, rfl, h⟩, hnone⟩
        · rintro (⟨⟨m, hm, h⟩, -⟩ | ⟨h, -⟩)
          · cases hm
            exact h
          · contradiction
      | some g =>
        obtain ⟨j, hj, hstart, hreach⟩ := (ih g).mp hs
        obtain ⟨m, -, hopens⟩ := hstart.opens
        have hcloses : g.isClosedBy l = true ↔ g.Closes l := hopens.isClosedBy_iff
        constructor
        · intro h
          change (if g.isClosedBy l then none else some g) = some f at h
          split at h
          · contradiction
          next hopen =>
            cases h
            refine Or.inr ⟨rfl, ?_⟩
            rintro m ⟨⟩
            exact mt hcloses.mpr hopen
        · rintro (h | ⟨hfence, hk⟩)
          · exact absurd hreach ((startsBlock_iff.mp h).2 g j hj hstart)
          · cases hfence
            exact if_neg (mt hcloses.mp (hk l rfl))

theorem inBlock_iff (hl : ls[k]? = some l) :
    InBlock ls k ↔ stateAfter none (ls.take k) ≠ none ∨ ∃ f, opened? l = some f := by
  constructor
  · rintro ⟨f, j, hstart, hreach⟩
    by_cases hj : j < k
    · left
      rw [(stateAfter_take_eq_some_iff ls f k).mpr ⟨j, hj, hstart, hreach⟩]
      exact Option.some_ne_none f
    · obtain rfl : j = k := by
        have := hreach.1
        omega
      obtain ⟨m, hm, hopens⟩ := hstart.opens
      rw [hl] at hm
      cases hm
      exact Or.inr ⟨f, opened?_eq_some_iff.mpr hopens⟩
  · intro h
    by_cases hs : stateAfter none (ls.take k) = none
    · obtain ⟨f, hf⟩ := h.resolve_left (not_not_intro hs)
      refine ⟨f, k, startsBlock_iff.mpr ⟨⟨l, hl, opened?_eq_some_iff.mp hf⟩, ?_⟩, ?_⟩
      · intro g j hj hstart hreach
        have hsome := (stateAfter_take_eq_some_iff ls g k).mpr ⟨j, hj, hstart, hreach⟩
        rw [hs] at hsome
        contradiction
      · exact ⟨Nat.le_refl k, fun m hkm hmk => absurd hmk (by omega)⟩
    · obtain ⟨f, hf⟩ := Option.ne_none_iff_exists'.mp hs
      obtain ⟨j, -, hstart, hreach⟩ := (stateAfter_take_eq_some_iff ls f k).mp hf
      exact ⟨f, j, hstart, hreach⟩

theorem step_snd_eq_some_iff :
    (step state l).2 = some t ↔ state = none ∧ opened? l = none ∧ title? l = some t := by
  cases state with
  | some f => simp [step]
  | none =>
    cases ho : opened? l with
    | some f => simp [step, ho]
    | none => simp [step, ho]

/-- A line lies in one block at most. -/
theorem eq_of_reaches (hf : StartsBlock ls f i) (hg : StartsBlock ls g j) (hi : Reaches ls f i k)
    (hj : Reaches ls g j k) : i = j ∧ f = g := by
  have hle : ∀ {f g i j}, StartsBlock ls f i → StartsBlock ls g j → Reaches ls f i k →
      Reaches ls g j k → ¬ i < j := by
    intro f g i j hf hg hi hj hij
    exact (startsBlock_iff.mp hg).2 f i hij hf (hi.mono (by omega) hj.1)
  obtain rfl : i = j := by
    have h₁ := hle hf hg hi hj
    have h₂ := hle hg hf hj hi
    omega
  obtain ⟨l, hl, hopens⟩ := hf.opens
  obtain ⟨m, hm, hopens'⟩ := hg.opens
  obtain rfl : l = m := Option.some.inj (hl.symm.trans hm)
  refine ⟨rfl, Option.some.inj ?_⟩
  rw [← opened?_eq_some_iff.mpr hopens, opened?_eq_some_iff.mpr hopens']

/-- A scan reports a line of a text as a header just when it has the form of one and lies in no
fenced block. The blocks are what the text as a whole makes of them, and no line is in two. -/
theorem header_reported_iff (text : List Char) (i : Nat) (t : List Char) (l : Line) :
    ((markHeaders none (lines text))[i]? = some (some t, l) ↔
      (lines text)[i]? = some l ∧ IsHeader t l ∧ ¬ InBlock (lines text) i) ∧
    ∀ f g j k, StartsBlock (lines text) f j → StartsBlock (lines text) g k →
      Reaches (lines text) f j i → Reaches (lines text) g k i → j = k ∧ f = g := by
  refine ⟨?_, fun f g j k hf hg => eq_of_reaches hf hg⟩
  rw [getElem?_markHeaders]
  constructor
  · intro h
    obtain ⟨l', hl, he⟩ := Option.map_eq_some_iff.mp h
    obtain ⟨htitle, rfl⟩ := Prod.mk.inj he
    obtain ⟨hs, ho, ht⟩ := step_snd_eq_some_iff.mp htitle
    refine ⟨hl, title?_eq_some_iff.mp ht, ?_⟩
    rw [inBlock_iff hl]
    simp [hs, ho]
  · rintro ⟨hl, hheader, hblock⟩
    rw [inBlock_iff hl, not_or, Classical.not_not, not_exists] at hblock
    obtain ⟨hs, ho⟩ := hblock
    have htitle : (step (stateAfter none ((lines text).take i)) l).2 = some t :=
      step_snd_eq_some_iff.mpr
        ⟨hs, Option.eq_none_iff_forall_ne_some.mpr ho, title?_eq_some_iff.mpr hheader⟩
    rw [hl, Option.map_some, htitle]

/-- Tildes do not close a block that backticks opened, and more backticks than opened it do. -/
def nestedText : List Char := "```md\n# Tools\n~~~\n````\n# Vibe".toList

theorem header_reported_iff_nested :
    StartsBlock (lines nestedText) ⟨backtick, 3⟩ 0 ∧
      Reaches (lines nestedText) ⟨backtick, 3⟩ 0 1 ∧
      (∀ g k, StartsBlock (lines nestedText) g k → Reaches (lines nestedText) g k 1 →
        0 = k ∧ ⟨backtick, 3⟩ = g) ∧
      (lines nestedText)[4]? = some "# Vibe".toList ∧ IsHeader "Vibe".toList "# Vibe".toList ∧
      ¬ InBlock (lines nestedText) 4 := by
  have hopens : Fence.Opens ⟨backtick, 3⟩ "```md".toList :=
    opened?_eq_some_iff.mp (by decide +kernel)
  have hstart : StartsBlock (lines nestedText) ⟨backtick, 3⟩ 0 := by
    refine startsBlock_iff.mpr ⟨⟨_, rfl, hopens⟩, ?_⟩
    intro g j hj
    omega
  have hreach : Reaches (lines nestedText) ⟨backtick, 3⟩ 0 1 := reaches_next
  have hvibe : (markHeaders none (lines nestedText))[4]? =
      some (some "Vibe".toList, "# Vibe".toList) := by decide +kernel
  refine ⟨hstart, hreach, ?_, (header_reported_iff nestedText 4 _ _).1.mp hvibe⟩
  intro g k hg hk
  exact (header_reported_iff nestedText 1 [] []).2 _ g 0 k hstart hg hreach hk

end TierRouting.Prompt
