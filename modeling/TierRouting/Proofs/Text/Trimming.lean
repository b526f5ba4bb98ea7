import TierRouting.Text.CharClass

/-! Blank texts, texts less the blanks at their ends, and what stands behind blanks. -/
namespace TierRouting.Text

variable {c : Char} {a b l t cs : List Char}

@[simp] theorem allBlank_nil : allBlank [] = true := rfl

@[simp] theorem allBlank_cons : allBlank (c :: cs) = (isBlank c && allBlank cs) := rfl

@[simp] theorem allBlank_append : allBlank (a ++ b) = (allBlank a && allBlank b) := by
  simp [allBlank]

theorem allBlank_eq_false (hc : isBlank c = false) (h : c ∈ cs) : allBlank cs = false :=
  List.all_eq_false.mpr ⟨c, h, by simp [hc]⟩

theorem trimStart_eq_nil_iff : trimStart l = [] ↔ allBlank l = true := by
  induction l with
  | nil => simp [trimStart]
  | cons c l ih => cases hc : isBlank c <;> simp_all [trimStart]

theorem exists_trimStart_cons (h : allBlank l = false) :
    ∃ c r, trimStart l = c :: r ∧ isBlank c = false := by
  induction l with
  | nil => simp at h
  | cons d l ih =>
    cases hd : isBlank d with
    | true =>
      have hl : trimStart (d :: l) = trimStart l := by simp [trimStart, hd]
      rw [hl]
      exact ih (by simpa [hd] using h)
    | false => exact ⟨d, l, by simp [trimStart, hd], hd⟩

theorem trimStart_append (h : allBlank l = false) : trimStart (l ++ b) = trimStart l ++ b := by
  induction l with
  | nil => simp at h
  | cons d l ih =>
    cases hd : isBlank d with
    | true =>
      have hl : ∀ r, trimStart (d :: r) = trimStart r := fun r => by simp [trimStart, hd]
      rw [List.cons_append, hl, hl]
      exact ih (by simpa [hd] using h)
    | false => simp [trimStart, hd]

theorem trimEnd_concat (hc : isBlank c = true) : trimEnd (cs ++ [c]) = trimEnd cs := by
  simp [trimEnd, hc]

/-- A text is its trimmed form and blanks behind it. -/
theorem exists_append_trimEnd (cs : List Char) : ∃ b, allBlank b = true ∧ cs = trimEnd cs ++ b := by
  refine ⟨(cs.reverse.takeWhile isBlank).reverse, ?_, ?_⟩
  · simp [allBlank]
  · rw [trimEnd, ← List.reverse_append, List.takeWhile_append_dropWhile, List.reverse_reverse]

/-- Only blanks are trimmed. -/
theorem mem_trim (hc : isBlank c = false) (h : c ∈ cs) : c ∈ trim cs := by
  have hstart : c ∈ trimStart cs := by
    have hblank : allBlank (cs.takeWhile isBlank) = true := List.all_takeWhile
    rw [← List.takeWhile_append_dropWhile (p := isBlank) (l := cs)] at h
    refine (List.mem_append.mp h).resolve_left fun hmem => ?_
    simp [allBlank_eq_false hc hmem] at hblank
  obtain ⟨b, hb, he⟩ := exists_append_trimEnd (trimStart cs)
  rw [he] at hstart
  refine (List.mem_append.mp hstart).resolve_right fun hmem => ?_
  simp [allBlank_eq_false hc hmem] at hb

theorem trimStart_of_not_isBlank (h : ∀ c ∈ cs, isBlank c = false) : trimStart cs = cs := by
  cases cs with
  | nil => rfl
  | cons c cs => simp [trimStart, h c List.mem_cons_self]

theorem trimEnd_of_not_isBlank (h : ∀ c ∈ cs, isBlank c = false) : trimEnd cs = cs := by
  have hreverse : trimStart cs.reverse = cs.reverse :=
    trimStart_of_not_isBlank fun c hc => h c (List.mem_reverse.mp hc)
  exact (congrArg List.reverse hreverse).trans (List.reverse_reverse cs)

theorem trim_of_not_isBlank (h : ∀ c ∈ cs, isBlank c = false) : trim cs = cs := by
  rw [trim, trimStart_of_not_isBlank h, trimEnd_of_not_isBlank h]

theorem mem_of_mem_trim (h : c ∈ trim cs) : c ∈ cs := by
  obtain ⟨b, -, he⟩ := exists_append_trimEnd (trimStart cs)
  have hstart : c ∈ trimStart cs := by
    rw [he]
    exact List.mem_append_left b h
  exact List.dropWhile_subset _ hstart

section AtEnd

variable {α : Type} {f : List Char → α} (h : ∀ a c, isBlank c = true → f (a ++ [c]) = f a)
include h

/-- What a blank at the end does not change, many do not change. -/
theorem apply_append_blank (hb : allBlank b = true) (a : List Char) : f (a ++ b) = f a := by
  induction b generalizing a with
  | nil => rw [List.append_nil]
  | cons c b ih =>
    rw [allBlank_cons, Bool.and_eq_true] at hb
    rw [List.append_cons, ih hb.2, h a c hb.1]

theorem apply_trimEnd (cs : List Char) : f (trimEnd cs) = f cs := by
  obtain ⟨b, hb, he⟩ := exists_append_trimEnd cs
  rw [← apply_append_blank h hb (trimEnd cs), ← he]

end AtEnd

theorem trimEnd_append_blank (hb : allBlank b = true) (a : List Char) :
    trimEnd (a ++ b) = trimEnd a :=
  apply_append_blank (fun _ _ hc => trimEnd_concat hc) hb a

theorem trimEnd_trimEnd (cs : List Char) : trimEnd (trimEnd cs) = trimEnd cs :=
  apply_trimEnd (fun _ _ hc => trimEnd_concat hc) cs

theorem trimEnd_append (h : allBlank b = false) : trimEnd (a ++ b) = a ++ trimEnd b := by
  have hb : ¬ (b.reverse.dropWhile isBlank).isEmpty = true := by
    intro hnil
    have hblank : allBlank b.reverse = true :=
      trimStart_eq_nil_iff.mp (List.isEmpty_iff.mp hnil)
    rw [allBlank, List.all_reverse, ← allBlank, h] at hblank
    contradiction
  rw [trimEnd, trimEnd, List.reverse_append, List.dropWhile_append, if_neg hb, List.reverse_append,
    List.reverse_reverse]

/-- Only the end is trimmed of a text that starts without blanks. -/
theorem exists_trim_append (hne : a ≠ []) (h : ∀ c ∈ a, isBlank c = false) (b : List Char) :
    ∃ kept, kept ⊆ b ∧ trim (a ++ b) = a ++ kept := by
  obtain ⟨c, hc⟩ := List.exists_mem_of_ne_nil a hne
  rw [trim, trimStart_append (allBlank_eq_false (h c hc) hc), trimStart_of_not_isBlank h]
  cases hb : allBlank b with
  | true => exact ⟨[], List.nil_subset b, by
      rw [trimEnd_append_blank hb, trimEnd_of_not_isBlank h, List.append_nil]⟩
  | false =>
    obtain ⟨blanks, -, he⟩ := exists_append_trimEnd b
    refine ⟨trimEnd b, fun d hd => ?_, trimEnd_append hb⟩
    rw [he]
    exact List.mem_append_left blanks hd

theorem trim_concat (cs : List Char) (hc : isBlank c = true) : trim (cs ++ [c]) = trim cs := by
  cases h : allBlank cs with
  | true =>
    have ha : allBlank (cs ++ [c]) = true := by simp [h, hc]
    rw [trim, trim, trimStart_eq_nil_iff.mpr ha, trimStart_eq_nil_iff.mpr h]
  | false => rw [trim, trimStart_append h, trimEnd_concat hc, ← trim]

/-- A text with something behind a blank is trimmed to what it was, or goes on from there with a
blank. -/
theorem trim_append_blank (h : allBlank a = false) (hc : isBlank c = true) (b : List Char) :
    trim (a ++ c :: b) = trim a ∨
      ∃ d more, isBlank d = true ∧ trim (a ++ c :: b) = trim a ++ d :: more := by
  obtain ⟨w, hw, he⟩ := exists_append_trimEnd (trimStart a)
  obtain ⟨d, rest, hrest, hd⟩ : ∃ d rest, w ++ c :: b = d :: rest ∧ isBlank d = true := by
    cases w with
    | nil => exact ⟨c, b, rfl, hc⟩
    | cons d w =>
      rw [allBlank_cons, Bool.and_eq_true] at hw
      exact ⟨d, w ++ c :: b, rfl, hw.1⟩
  have htrim : trim (a ++ c :: b) = trimEnd (trim a ++ d :: rest) := by
    rw [trim, trimStart_append h, ← hrest, ← List.append_assoc, trim, ← he]
  rw [htrim]
  cases hb : allBlank rest with
  | true =>
    left
    rw [trimEnd_append_blank (by simp [hd, hb]), trim, trimEnd_trimEnd]
  | false =>
    right
    refine ⟨d, trimEnd rest, hd, ?_⟩
    rw [List.append_cons, trimEnd_append hb, ← List.append_cons]

theorem exists_runs_cons {p : Char → Bool} (h : cs.head?.any p = true) :
    ∃ w ws, runs p cs = w :: ws := by
  cases cs with
  | nil => simp at h
  | cons d r =>
    have hd : p d = true := by simpa using h
    rw [runs, if_pos hd]
    split
    · split <;> exact ⟨_, _, rfl⟩
    · exact ⟨_, _, rfl⟩

/-- A character outside every run keeps the runs before it and behind it apart. -/
theorem runs_append {p : Char → Bool} (hc : p c = false) (a b : List Char) :
    runs p (a ++ c :: b) = runs p a ++ runs p b := by
  induction a with
  | nil => simp [runs, hc]
  | cons d a ih =>
    have hhead : (a ++ c :: b).head?.any p = a.head?.any p := by
      cases a <;> simp [hc]
    rw [List.cons_append, runs, runs, ih, hhead]
    split
    · split
      next hany =>
        obtain ⟨w, ws, hw⟩ := exists_runs_cons hany
        rw [hw]
        rfl
      next => rfl
    · rfl

theorem words_append_blank (hc : isBlank c = true) (a b : List Char) :
    words (a ++ c :: b) = words a ++ words b := runs_append (by simp [hc]) a b

/-- A text that ends in no blank does not reach into the blanks behind another. -/
theorem infix_append_blank_iff {w : List Char} (hc : isBlank c = false) (hb : allBlank b = true) :
    w ++ [c] <:+: a ++ b ↔ w ++ [c] <:+: a := by
  have hcb : c ∉ b := fun h => by simp [allBlank_eq_false hc h] at hb
  constructor
  · rw [List.infix_append_iff_ne_nil]
    rintro (h | h | ⟨u, v, -, hv, e, -, hp⟩)
    · exact h
    · exact absurd (h.subset (by simp)) hcb
    · obtain ⟨q, d, rfl⟩ := List.eq_nil_or_concat v |>.resolve_left hv
      obtain ⟨-, rfl⟩ : w = u ++ q ∧ c = d := by simpa [← List.append_assoc] using e
      exact absurd (hp.subset (by simp)) hcb
  · exact fun h => h.trans (List.prefix_append a b).isInfix

/-- A text without blanks at its ends. -/
structure IsTrimmed (cs : List Char) : Prop where
  head : ∀ c ∈ cs.head?, isBlank c = false
  last : ∀ c ∈ cs.getLast?, isBlank c = false

/-- The text `cs` is `t` with blanks around it. -/
def Padded (t cs : List Char) : Prop :=
  ∃ a b, allBlank a = true ∧ allBlank b = true ∧ cs = a ++ t ++ b

theorem isBlank_head_trimStart (cs : List Char) : ∀ c ∈ (trimStart cs).head?, isBlank c = false := by
  intro c hc
  cases h : allBlank cs with
  | true =>
    rw [trimStart_eq_nil_iff.mpr h] at hc
    contradiction
  | false =>
    obtain ⟨d, r, ht, hd⟩ := exists_trimStart_cons h
    rw [ht] at hc
    cases hc
    exact hd

theorem isTrimmed_trim (cs : List Char) : IsTrimmed (trim cs) := by
  constructor
  · intro c hc
    obtain ⟨b, -, he⟩ := exists_append_trimEnd (trimStart cs)
    apply isBlank_head_trimStart cs
    rw [he, ← trim, List.head?_append, Option.mem_def.mp hc]
    rfl
  · intro c hc
    rw [trim, trimEnd, List.getLast?_reverse] at hc
    exact isBlank_head_trimStart _ c hc

theorem padded_self (t : List Char) : Padded t t := ⟨[], [], rfl, rfl, by simp⟩

theorem padded_trim (cs : List Char) : Padded (trim cs) cs := by
  obtain ⟨b, hb, he⟩ := exists_append_trimEnd (trimStart cs)
  refine ⟨cs.takeWhile isBlank, b, List.all_takeWhile, hb, ?_⟩
  rw [List.append_assoc, trim, ← he]
  exact List.takeWhile_append_dropWhile.symm

theorem trimStart_eq_self (h : ∀ c ∈ cs.head?, isBlank c = false) : trimStart cs = cs := by
  cases cs with
  | nil => rfl
  | cons c cs => simp [trimStart, h c rfl]

theorem trimEnd_isPrefix (cs : List Char) : trimEnd cs <+: cs := by
  obtain ⟨b, -, he⟩ := exists_append_trimEnd cs
  exact ⟨b, he.symm⟩

theorem IsTrimmed.trim_eq (ht : IsTrimmed t) : trim t = t := by
  have hend : trimEnd t = t := by
    rcases List.eq_nil_or_concat t with rfl | ⟨k, c, rfl⟩
    · rfl
    · have hc := ht.last c (by simp)
      simp [trimEnd, hc]
  rw [trim, trimStart_eq_self ht.head, hend]

/-- Blanks are all that trimming takes off. -/
theorem trim_eq_iff (ht : IsTrimmed t) : trim cs = t ↔ Padded t cs := by
  constructor
  · intro h
    rw [← h]
    exact padded_trim cs
  · rintro ⟨a, b, ha, hb, rfl⟩
    have hstart : ∀ l, trimStart (a ++ l) = trimStart l := fun l =>
      List.dropWhile_append_of_pos (List.all_eq_true.mp ha)
    rw [List.append_assoc, trim, hstart]
    cases h : allBlank t with
    | true =>
      obtain rfl : t = [] := by
        cases t with
        | nil => rfl
        | cons c t => simp [ht.head c rfl] at h
      rw [List.nil_append, trimStart_eq_nil_iff.mpr hb]
      rfl
    | false => rw [trimStart_append h, trimEnd_append_blank hb, ← trim, ht.trim_eq]

theorem trim_eq_nil_iff : trim cs = [] ↔ allBlank cs = true := by
  have hnil : IsTrimmed [] := ⟨nofun, nofun⟩
  rw [trim_eq_iff hnil]
  constructor
  · rintro ⟨a, b, ha, hb, rfl⟩
    simp [ha, hb]
  · intro h
    exact ⟨cs, [], h, rfl, by simp⟩

theorem trim_trimStart (cs : List Char) : trim (trimStart cs) = trim cs := by
  apply (trim_eq_iff (isTrimmed_trim cs)).mpr
  obtain ⟨b, hb, he⟩ := exists_append_trimEnd (trimStart cs)
  exact ⟨[], b, rfl, hb, he⟩

theorem trim_trimEnd (cs : List Char) : trim (trimEnd cs) = trim cs :=
  apply_trimEnd (fun a _ hc => trim_concat a hc) cs

/-- A character that is not blank shields what is behind it from the start, and the other way
round. -/
theorem trim_append_cons (hc : isBlank c = false) (a b : List Char) :
    trim (a ++ c :: b) = trimStart a ++ c :: trimEnd b := by
  have hstart : trimStart (a ++ c :: b) = trimStart a ++ c :: b := by
    induction a with
    | nil => simp [trimStart, hc]
    | cons d a ih => cases hd : isBlank d <;> simp_all [trimStart]
  have hend : trimEnd (c :: b) = c :: trimEnd b := by
    cases hb : allBlank b with
    | true =>
      have hnil : trimEnd b = [] := trimEnd_append_blank hb []
      rw [← List.singleton_append, trimEnd_append_blank hb, hnil]
      simp [trimEnd, hc]
    | false => exact trimEnd_append (a := [c]) hb
  rw [trim, hstart, trimEnd_append (by simp [hc]), hend]

theorem trimStart_eq_iff {r : List Char} (h : ∀ c ∈ r.head?, isBlank c = false) :
    trimStart l = r ↔ ∃ indent, allBlank indent = true ∧ l = indent ++ r := by
  constructor
  · intro hr
    refine ⟨l.takeWhile isBlank, List.all_takeWhile, ?_⟩
    rw [← hr, trimStart, List.takeWhile_append_dropWhile]
  · rintro ⟨indent, hindent, rfl⟩
    rw [trimStart, List.dropWhile_append_of_pos (List.all_eq_true.mp hindent)]
    exact trimStart_eq_self h

theorem takeWhile_eq_replicate (c : Char) (cs : List Char) :
    cs.takeWhile (· == c) = List.replicate (cs.takeWhile (· == c)).length c := by
  rw [List.eq_replicate_iff]
  refine ⟨rfl, ?_⟩
  intro d hd
  exact eq_of_beq (List.all_eq_true.mp List.all_takeWhile d hd)

theorem not_mem_head?_dropWhile (c : Char) (cs : List Char) :
    c ∉ (cs.dropWhile (· == c)).head? := by
  intro hc
  have hfalse := List.head?_dropWhile_not (· == c) cs
  rw [Option.mem_def.mp hc] at hfalse
  simp at hfalse

theorem takeWhile_replicate_append (n : Nat) (h : c ∉ t.head?) :
    (List.replicate n c ++ t).takeWhile (· == c) = List.replicate n c := by
  have hall : ∀ d ∈ List.replicate n c, (d == c) = true := by
    intro d hd
    rw [List.eq_of_mem_replicate hd, beq_self_eq_true]
  rw [List.takeWhile_append_of_pos hall]
  cases t with
  | nil => simp
  | cons d t =>
    have hd : d ≠ c := fun he => h (by simp [he])
    simp [hd]

theorem dropWhile_replicate_append (n : Nat) (h : c ∉ t.head?) :
    (List.replicate n c ++ t).dropWhile (· == c) = t := by
  have hsplit := List.takeWhile_append_dropWhile (p := (· == c)) (l := List.replicate n c ++ t)
  rw [takeWhile_replicate_append n h] at hsplit
  exact List.append_cancel_left hsplit

/-- A run that a line starts with is what trimming leaves at its start. -/
theorem trimStart_eq_run_iff {n : Nat} (hc : isBlank c = false) (hn : 0 < n) :
    trimStart l = List.replicate n c ++ t ↔
      ∃ indent, allBlank indent = true ∧ l = indent ++ List.replicate n c ++ t := by
  have hhead : ∀ d ∈ (List.replicate n c ++ t).head?, isBlank d = false := by
    intro d hd
    rw [List.head?_append, List.head?_replicate, if_neg (by omega)] at hd
    cases hd
    exact hc
  simp only [trimStart_eq_iff hhead, List.append_assoc]

end TierRouting.Text
