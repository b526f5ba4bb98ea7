import TierRouting.Proofs.Text.CaseFolding
import TierRouting.Proofs.Text.Lowercasing
import TierRouting.Proofs.Text.Trimming

/-! The maximal runs of a text, those of its parts, and their lower case. -/
namespace TierRouting.Text

variable {p : Char → Bool} {c d : Char} {a b w cs : List Char} {us vs ws : List (List Char)}

/-- The list has the longest pieces of the text that are all of characters with the property `p`,
in order. -/
inductive MaximalRuns (p : Char → Bool) : List Char → List (List Char) → Prop
  | nil : MaximalRuns p [] []
  | gap {c : Char} {cs : List Char} {ws : List (List Char)} :
      p c = false → MaximalRuns p cs ws → MaximalRuns p (c :: cs) ws
  | run {w cs : List Char} {ws : List (List Char)} :
      w ≠ [] → (∀ c ∈ w, p c = true) → (∀ c ∈ cs.head?, p c = false) → MaximalRuns p cs ws →
        MaximalRuns p (w ++ cs) (w :: ws)

/-- No run goes from the end of `a` into `b`. -/
def Parted (p : Char → Bool) (a b : List Char) : Prop :=
  ∀ c ∈ a.getLast?, ∀ d ∈ b.head?, p c = true → p d = false

theorem runs_cons_of_false (hc : p c = false) (cs : List Char) : runs p (c :: cs) = runs p cs :=
  runs_append hc [] cs

theorem runs_append_of_run (hne : w ≠ []) (hw : ∀ c ∈ w, p c = true)
    (hcs : ∀ c ∈ cs.head?, p c = false) : runs p (w ++ cs) = w :: runs p cs := by
  induction w with
  | nil => exact absurd rfl hne
  | cons c w ih =>
    have hc : p c = true := hw c List.mem_cons_self
    cases w with
    | nil =>
      have hend : cs.head?.any p = false := by
        cases cs with
        | nil => rfl
        | cons d cs => exact hcs d rfl
      simp [runs, hc, hend]
    | cons d w =>
      have hd : p d = true := hw d (by simp)
      have hrest := ih (List.cons_ne_nil d w) fun e he => hw e (List.mem_cons_of_mem c he)
      have hnext : ((d :: w) ++ cs).head?.any p = true := hd
      rw [List.cons_append, runs, if_pos hc, if_pos hnext, hrest]

theorem maximalRuns_runs (p : Char → Bool) (cs : List Char) : MaximalRuns p cs (runs p cs) := by
  induction cs with
  | nil => exact .nil
  | cons c cs ih =>
    cases hc : p c with
    | false =>
      rw [runs_cons_of_false hc]
      exact .gap hc ih
    | true =>
      rw [runs, if_pos hc]
      cases hnext : cs.head?.any p with
      | false =>
        have hend : ∀ d ∈ cs.head?, p d = false := by
          intro d hd
          rwa [Option.mem_def.mp hd, Option.any_some] at hnext
        exact .run (List.cons_ne_nil c []) (by simpa using hc) hend ih
      | true =>
        -- The text goes on with a run, which `c` makes longer.
        obtain ⟨w, ws, hws⟩ := exists_runs_cons hnext
        rw [hws] at ih ⊢
        cases ih with
        | gap hd => simp [hd] at hnext
        | @run _ cs _ hne hw hend hrest =>
          have hcw : ∀ d ∈ c :: w, p d = true := by simpa [hc] using hw
          exact .run (List.cons_ne_nil c w) hcw hend hrest

/-- A text has one list of maximal runs. -/
theorem maximalRuns_iff : MaximalRuns p cs ws ↔ ws = runs p cs := by
  constructor
  · intro h
    induction h with
    | nil => rfl
    | gap hc _ ih => rw [runs_cons_of_false hc, ih]
    | run hne hw hend _ ih => rw [runs_append_of_run hne hw hend, ih]
  · rintro rfl
    exact maximalRuns_runs p cs

theorem MaximalRuns.forall_mem (h : MaximalRuns p cs ws) (hw : w ∈ ws) : ∀ c ∈ w, p c = true := by
  induction h with
  | nil => simp at hw
  | gap _ _ ih => exact ih hw
  | run _ hall _ _ ih =>
    rcases List.mem_cons.mp hw with rfl | hw
    · exact hall
    · exact ih hw

theorem MaximalRuns.ne_nil (h : MaximalRuns p cs ws) (hws : ws ≠ []) : cs ≠ [] := by
  rintro rfl
  rw [maximalRuns_iff] at h
  exact hws h

theorem parted_append_iff (hb : b ≠ []) : Parted p (a ++ b) cs ↔ Parted p b cs := by
  rw [Parted, Parted, List.getLast?_append_of_ne_nil _ hb]

/-- Texts that no run joins have their runs one after the other. -/
theorem MaximalRuns.append (ha : MaximalRuns p a us) (hb : MaximalRuns p b vs)
    (h : Parted p a b) : MaximalRuns p (a ++ b) (us ++ vs) := by
  induction ha with
  | nil => exact hb
  | @gap c cs us hc ha ih =>
    refine .gap hc (ih ?_)
    intro d hd
    apply h d
    cases cs with
    | nil => simp at hd
    | cons e cs => exact hd
  | @run w cs us hne hw hend ha ih =>
    rw [List.append_assoc, List.cons_append]
    refine .run hne hw ?_ (ih ?_)
    · intro d hd
      cases cs with
      | nil =>
        -- The run is at the end of `a`.
        obtain ⟨w, c, rfl⟩ := (List.eq_nil_or_concat w).resolve_left hne
        exact h c (by simp) d hd (hw c (by simp))
      | cons e cs => exact hend d hd
    · intro c hc
      apply h c
      cases cs with
      | nil => simp at hc
      | cons e cs => simpa using hc

/-- Where its runs are parted, a text is. -/
theorem MaximalRuns.exists_append (h : MaximalRuns p cs (us ++ vs)) :
    ∃ a b, cs = a ++ b ∧ Parted p a b ∧ MaximalRuns p a us ∧ MaximalRuns p b vs := by
  generalize hws : us ++ vs = ws at h
  induction h generalizing us with
  | nil =>
    obtain ⟨rfl, rfl⟩ := List.append_eq_nil_iff.mp hws
    exact ⟨[], [], rfl, by simp [Parted], .nil, .nil⟩
  | @gap c cs ws hc h ih =>
    obtain ⟨a, b, rfl, hparted, ha, hb⟩ := ih hws
    refine ⟨c :: a, b, rfl, ?_, .gap hc ha, hb⟩
    intro d hd e he hp
    cases a with
    | nil =>
      obtain rfl : c = d := by simpa using hd
      simp [hc] at hp
    | cons f a => exact hparted d hd e he hp
  | @run w cs ws hne hw hend h ih =>
    cases us with
    | nil =>
      obtain rfl : vs = w :: ws := hws
      exact ⟨[], w ++ cs, rfl, by simp [Parted], .nil, .run hne hw hend h⟩
    | cons u us =>
      obtain ⟨rfl, hrest⟩ := List.cons.inj hws
      obtain ⟨a, b, rfl, hparted, ha, hb⟩ := ih hrest
      refine ⟨u ++ a, b, by rw [List.append_assoc], ?_, ?_, hb⟩
      · intro d hd e he hp
        cases a with
        | nil => exact hend e he
        | cons f a => exact hparted d (by simpa using hd) e he hp
      · refine .run hne hw ?_ ha
        intro d hd
        cases a with
        | nil => simp at hd
        | cons f a => exact hend d hd

/-- No run of the table leads to a blank. -/
theorem caseRuns_not_blank : ∀ r ∈ caseRuns, ∀ n ∈ blankCodes,
    r.holds ((n : Int) - r.offset).toNat = false := by
  decide +kernel

theorem isBlank_of_mem_lowerChar (h : d ∈ lowerChar c) (hd : isBlank d = true) :
    isBlank c = true := by
  rw [lowerChar] at h
  split at h
  · obtain rfl := List.mem_singleton.mp h
    rwa [(sameClasses_toLower c).blank] at hd
  · split at h
    · rcases List.mem_pair.mp h with rfl | rfl
      · exact absurd hd (by decide)
      · exact absurd hd (by decide)
    · split at h
      next r hr =>
        obtain rfl := List.mem_singleton.mp h
        have hcode := toNat_mem_blankCodes hd
        have hpositive : ∀ n ∈ blankCodes, 0 < n := by decide
        rw [Char.toNat_ofNat] at hcode
        split at hcode
        · have hback : ((((c.toNat : Int) + r.offset).toNat : Int) - r.offset).toNat = c.toNat := by
            have := hpositive _ hcode
            omega
          have hnone := caseRuns_not_blank r (List.mem_of_find?_eq_some hr) _ hcode
          rw [hback, List.find?_some hr] at hnone
          contradiction
        · exact absurd (hpositive 0 hcode) (by decide)
      next => rwa [List.mem_singleton.mp h] at hd

/-- Lower case brings no blanks into a text. -/
theorem isBlank_of_mem_lowercase (h : d ∈ lowercase cs) (hd : isBlank d = true) :
    ∃ c ∈ cs, isBlank c = true := by
  rcases exists_lowerChar_of_mem_lowercase h with rfl | rfl | ⟨c, hc, hlower⟩
  · exact absurd hd (by decide)
  · exact absurd hd (by decide)
  · exact ⟨c, hc, isBlank_of_mem_lowerChar hlower hd⟩

theorem lowerChar_ne_nil (c : Char) : lowerChar c ≠ [] := by
  rw [lowerChar]
  split
  · exact List.cons_ne_nil _ _
  · split
    · exact List.cons_ne_nil _ _
    · split <;> exact List.cons_ne_nil _ _

theorem lowercase_ne_nil (h : cs ≠ []) : lowercase cs ≠ [] := by
  obtain ⟨c, r, rfl⟩ := List.exists_cons_of_ne_nil h
  rw [lowercase, lowerAfter]
  apply List.append_ne_nil_of_left_ne_nil
  split
  · exact List.cons_ne_nil _ _
  · exact lowerChar_ne_nil c

/-- A text without blanks is one word. -/
theorem words_of_not_blank (hne : w ≠ []) (h : ∀ c ∈ w, isBlank c = false) : words w = [w] := by
  have hw : ∀ c ∈ w, (!isBlank c) = true := by
    intro c hc
    rw [h c hc, Bool.not_false]
  have hone : words (w ++ []) = [w] := runs_append_of_run hne hw nofun
  rwa [List.append_nil] at hone

theorem words_lowercase_append (hc : isBlank c = true) (a b : List Char) :
    words (lowercase (a ++ c :: b)) = words (lowercase a) ++ words (lowercase b) := by
  rw [lowercase_append_blank hc, words_append_blank hc]

theorem words_lowercase_cons (hc : isBlank c = true) (cs : List Char) :
    words (lowercase (c :: cs)) = words (lowercase cs) := words_lowercase_append hc [] cs

/-- A run without blanks is one word in lower case. -/
theorem words_lowercase_of_not_blank (hne : w ≠ []) (h : ∀ c ∈ w, isBlank c = false) :
    words (lowercase w) = [lowercase w] := by
  apply words_of_not_blank (lowercase_ne_nil hne)
  intro d hd
  by_contra hblank
  obtain ⟨c, hc, hcblank⟩ := isBlank_of_mem_lowercase hd (by simpa using hblank)
  simp [h c hc] at hcblank

/-- Where blanks stand for all that is in no run, the words in lower case are the runs. -/
theorem words_lowercase_map (hp : ∀ c, p c = true → isBlank c = false)
    (h : MaximalRuns p cs ws) :
    words (lowercase (cs.map fun c => if p c then c else ' ')) = ws.map lowercase := by
  have hspace : isBlank ' ' = true := by decide
  induction h with
  | nil => rfl
  | gap hc _ ih =>
    rw [List.map_cons, hc, if_neg Bool.false_ne_true, words_lowercase_cons hspace, ih]
  | @run w cs ws hne hw hend _ ih =>
    have hsame : (w.map fun c => if p c then c else ' ') = w := by
      have hkept : ∀ c ∈ w, (if p c then c else ' ') = c := fun c hc => if_pos (hw c hc)
      rw [List.map_congr_left hkept, List.map_id']
    have hword := words_lowercase_of_not_blank hne fun c hc => hp c (hw c hc)
    rw [List.map_append, hsame, List.map_cons, ← ih]
    cases cs with
    | nil => simpa [lowercase, lowerAfter, words, runs] using hword
    | cons c cs =>
      have hc : p c = false := hend c rfl
      rw [List.map_cons, hc, if_neg Bool.false_ne_true, words_lowercase_append hspace,
        words_lowercase_cons hspace, hword, List.singleton_append]

end TierRouting.Text
