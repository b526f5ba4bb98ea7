import TierRouting.Proofs.Config.KeyPlaces
import TierRouting.Proofs.Text.WholeLines

/-! Whether the place that is found for a key lies in the section that was asked for. The key is
always there. The section is the right one if its name is first met in a header at the start of a
line, and the key on a later line. -/
namespace TierRouting.Text

variable {a b r s i j cs : List Char}

theorem eq_nil_of_byteLength (h : byteLength cs = 0) : cs = [] := by
  by_cases hcs : cs = []
  · exact hcs
  · have := byteLength_pos hcs
    omega

/-- The bytes before a place tell the place. -/
theorem eq_of_byteLength (h : a ++ r = b ++ s) (hlength : byteLength a = byteLength b) :
    a = b := by
  rcases List.append_eq_append_iff.mp h with ⟨d, rfl, -⟩ | ⟨d, rfl, -⟩
  · rw [byteLength_append] at hlength
    have hd : byteLength d = 0 := by omega
    rw [eq_nil_of_byteLength hd, List.append_nil]
  · rw [byteLength_append] at hlength
    have hd : byteLength d = 0 := by omega
    rw [eq_nil_of_byteLength hd, List.append_nil]

/-- White space within a line. -/
def Indent (cs : List Char) : Prop := ∀ c ∈ cs, isBlank c = true ∧ c ≠ '\n'

theorem Indent.newline_not_mem (h : Indent i) : '\n' ∉ i := fun hmem => (h _ hmem).2 rfl

theorem eq_nil_of_endsLine (h : a ++ i = a ++ b ++ j) (hends : EndsLine (a ++ b))
    (hi : '\n' ∉ i) : b = [] := by
  rw [List.append_assoc] at h
  obtain rfl := List.append_cancel_left h
  by_cases hb : b = []
  · exact hb
  · exact absurd (List.mem_append_left j (newline_mem_of_endsLine hends hb)) hi

/-- A place within a line tells where the line starts. -/
theorem eq_of_indent (h : a ++ i = b ++ j) (ha : EndsLine a) (hb : EndsLine b) (hi : '\n' ∉ i)
    (hj : '\n' ∉ j) : a = b := by
  rcases List.append_eq_append_iff.mp h with ⟨d, rfl, -⟩ | ⟨d, rfl, -⟩
  · rw [eq_nil_of_endsLine h hb hi, List.append_nil]
  · rw [eq_nil_of_endsLine h.symm ha hj, List.append_nil]

theorem trimStart_indent_append (hi : ∀ c ∈ i, isBlank c = true) (cs : List Char) :
    trimStart (i ++ cs) = trimStart cs :=
  List.dropWhile_append_of_pos hi

end TierRouting.Text

namespace TierRouting.Config

open Text

variable {text key before rest line first tail above indent k : List Char}
  {ls passed later more : List (List Char)} {path : List String} {o : Nat}

/-- The key stands at an offset, with a character behind it that ends a key. -/
def KeyAt (text key : List Char) (o : Nat) : Prop :=
  ∃ before after, text = before ++ key ++ after ∧ byteLength before = o ∧
    after.head?.any endsKey = true

/-- The last of the lines that start like a header starts with the header of the section. Outside
of all sections there is no such line. -/
def LeadsInto (path : List String) (ls : List (List Char)) : Prop :=
  if path = [] then ∀ l ∈ ls, ¬ Opens l
  else ∃ passed l later, ls = passed ++ l :: later ∧ header path <+: trimStart l ∧
    ∀ m ∈ later, ¬ Opens m

/-- On its line an offset has only white space before it, and the lines above lead into the
section. -/
def InSection (text : List Char) (path : List String) (o : Nat) : Prop :=
  ∃ above indent rest, text = above ++ indent ++ rest ∧ byteLength (above ++ indent) = o ∧
    EndsLine above ∧ Indent indent ∧ LeadsInto path (wholeLines above)

def AtLineStart (before : List Char) : Prop :=
  ∃ front indent, before = front ++ indent ∧ EndsLine front ∧ Indent indent

/-- The first text that looks like the header of the section stands at the start of a line, and
the offset is on a later line. -/
def BelowHeaderLine (text : List Char) (path : List String) (o : Nat) : Prop :=
  ∃ before between after, FirstAt (header path) text before (between ++ after) ∧
    byteLength (before ++ header path ++ between) = o ∧ AtLineStart before ∧
    '\n' ∉ header path ∧ '\n' ∈ between

/-- Nothing in front of the offset ends a line. -/
def OnFirstLine (text : List Char) (o : Nat) : Prop :=
  ∃ before after, text = before ++ after ∧ byteLength before = o ∧ '\n' ∉ before

/-- For a place in a text, only the lines above matter. -/
theorem inSection_iff (htext : text = above ++ indent ++ rest) (habove : EndsLine above)
    (hindent : Indent indent) :
    InSection text path (byteLength (above ++ indent)) ↔ LeadsInto path (wholeLines above) := by
  constructor
  · rintro ⟨above', indent', rest', htext', hlength, habove', hindent', hleads⟩
    have hplace : above' ++ indent' = above ++ indent :=
      eq_of_byteLength (htext'.symm.trans htext) hlength
    rwa [eq_of_indent hplace habove' habove hindent'.newline_not_mem hindent.newline_not_mem]
      at hleads
  · exact fun hleads => ⟨above, indent, rest, htext, rfl, habove, hindent, hleads⟩

/-- What is in front of a key that a line sets. -/
theorem exists_indent (hsplit : wholeLines rest = passed ++ line :: later) (hsets : Sets key line) :
    ∃ indent after, rest = passed.flatten ++ indent ++ (key ++ after) ∧ Indent indent ∧
      margin line = byteLength indent ∧ after.head?.any endsKey = true := by
  rw [Sets, setsKey, Bool.and_eq_true] at hsets
  obtain ⟨after, hafter⟩ := List.isPrefixOf_iff_prefix.mp hsets.1
  have hends : after.head?.any endsKey = true := by
    rw [← hafter, List.drop_left] at hsets
    exact hsets.2
  have hline : line.takeWhile isBlank ++ (key ++ after) = line := by
    rw [hafter, trimStart, List.takeWhile_append_dropWhile]
  have hne : key ++ after ≠ [] := by
    intro hnil
    rw [(List.append_eq_nil_iff.mp hnil).2] at hends
    contradiction
  have hnewline : '\n' ∉ line.takeWhile isBlank := newline_not_mem_of_split (hline ▸ hsplit) hne
  refine ⟨line.takeWhile isBlank, after ++ later.flatten, ?_, fun c hc =>
    ⟨List.all_eq_true.mp List.all_takeWhile c hc, fun e => hnewline (e ▸ hc)⟩, rfl, ?_⟩
  · have hlast : line ++ later.flatten =
        line.takeWhile isBlank ++ (key ++ after) ++ later.flatten := by rw [hline]
    rw [← flatten_wholeLines rest, hsplit, List.flatten_append, List.flatten_cons, hlast]
    simp only [List.append_assoc]
  · rw [List.head?_append]
    cases hhead : after.head? with
    | none =>
      rw [hhead] at hends
      contradiction
    | some c =>
      rw [hhead] at hends
      exact hends

theorem header_eq_concat (path : List String) : ∃ w, header path = w ++ [']'] := ⟨_, rfl⟩

theorem trimStart_header_append (path : List String) (cs : List Char) :
    trimStart (header path ++ cs) = header path ++ cs := by
  have hopen : isBlank '[' = false := by decide
  rw [header, trimStart, List.cons_append, List.cons_append,
    List.dropWhile_cons_of_neg (by simp [hopen])]

theorem opens_of_start {l : List Char} (h : header path <+: trimStart l) : Opens l := by
  obtain ⟨t, ht⟩ := h
  rw [Opens, ← ht]
  rfl

/-- A header that starts a line is the first text that looks like one, if it ends on the same line
as the first one. -/
theorem eq_of_same_line (hheader : '\n' ∉ header path) (hk : '\n' ∉ k)
    (heq : before ++ (header path ++ (k ++ ['\n'])) = above ++ indent ++ (header path ++ tail))
    (habove : EndsLine above) (hindent : Indent indent)
    (hle : before.length ≤ (above ++ indent).length) : before = above ++ indent := by
  rcases List.append_eq_append_iff.mp heq with ⟨d, hd, hrest⟩ | ⟨d, hd, -⟩
  · rcases d with _ | ⟨c, d⟩
    · rw [hd, List.append_nil]
    · obtain rfl : '[' = c := (List.cons.inj hrest).1
      have hnewline : '\n' ∈ '[' :: d := by
        rcases List.append_eq_append_iff.mp hd with ⟨e, -, he⟩ | ⟨e, rfl, he⟩
        · have hblank := (hindent '[' (he ▸ List.mem_append_right e List.mem_cons_self)).1
          contradiction
        · rcases e with _ | ⟨c, e⟩
          · obtain rfl : '[' :: d = indent := he
            have hblank := (hindent '[' List.mem_cons_self).1
            contradiction
          · rw [he]
            exact List.mem_append_left _
              (newline_mem_of_endsLine habove (List.cons_ne_nil c e))
      rw [← List.append_assoc] at hrest
      rcases List.append_eq_append_iff.mp hrest with ⟨x, hx, htail⟩ | ⟨x, hx, -⟩
      · have hlength := congrArg List.length htail
        simp [header] at hlength
        omega
      · have hmem : '\n' ∈ header path ++ k := hx ▸ List.mem_append_left x hnewline
        rcases List.mem_append.mp hmem with hmem | hmem
        · exact absurd hmem hheader
        · exact absurd hmem hk
  · have hlength := congrArg List.length hd
    rw [List.length_append] at hlength
    obtain rfl : d = [] := List.length_eq_zero_iff.mp (by omega)
    rw [hd, List.append_nil]

/-- A line that starts with a header has it behind white space. -/
theorem exists_header (hsplit : wholeLines rest = passed ++ line :: later)
    (hline : header path <+: trimStart line) : ∃ indent tail,
      rest = passed.flatten ++ indent ++ (header path ++ tail) ∧ EndsLine passed.flatten ∧
        Indent indent ∧ '\n' ∉ header path := by
  obtain ⟨t, ht⟩ := hline
  obtain ⟨w, hw⟩ := header_eq_concat path
  have hparts : line.takeWhile isBlank ++ (header path ++ t) = line := by
    rw [ht, trimStart, List.takeWhile_append_dropWhile]
  have hcut : line = line.takeWhile isBlank ++ w ++ ']' :: t := by
    rw [hw] at hparts
    simpa using hparts.symm
  -- The bracket that closes the header comes before the end of the line.
  have hfree : '\n' ∉ line.takeWhile isBlank ++ w :=
    newline_not_mem_of_split (hcut ▸ hsplit) (List.cons_ne_nil ']' t)
  refine ⟨line.takeWhile isBlank, t ++ later.flatten, ?_,
    endsLine_flatten (completeLine_of_split hsplit), fun c hc =>
      ⟨List.all_eq_true.mp List.all_takeWhile c hc, fun e =>
        hfree (List.mem_append_left w (e ▸ hc))⟩, ?_⟩
  · have hlast : line ++ later.flatten =
        line.takeWhile isBlank ++ (header path ++ t) ++ later.flatten := by rw [hparts]
    rw [← flatten_wholeLines rest, hsplit, List.flatten_append, List.flatten_cons, hlast]
    simp only [List.append_assoc]
  · rw [hw]
    simpa using fun hmem => hfree (List.mem_append_right _ hmem)

theorem exists_split_of_not_mem (h : ls ++ more = passed ++ line :: later) (hline : line ∉ more) :
    ∃ later, ls = passed ++ line :: later := by
  rcases List.append_eq_append_iff.mp h with ⟨d, -, hd⟩ | ⟨d, hd, hrest⟩
  · exact absurd (hd ▸ by simp) hline
  · rcases d with _ | ⟨m, d⟩
    · obtain rfl : line :: later = more := hrest
      exact absurd List.mem_cons_self hline
    · obtain rfl : line = m := (List.cons.inj hrest).1
      exact ⟨d, hd⟩

/-- Below the first text that looks like the header, the lines lead into the section just when
that text starts a line. -/
theorem leadsInto_iff (hpath : path ≠ [])
    (hfirst : FirstAt (header path) text before ((first :: more).flatten ++ tail))
    (hcomplete : ∀ l ∈ first :: more, CompleteLine l) (hmore : ∀ l ∈ more, ¬ Opens l) :
    LeadsInto path (wholeLines (before ++ header path ++ (first :: more).flatten)) ↔
      AtLineStart before ∧ '\n' ∉ header path := by
  have hends : EndsLine (before ++ header path ++ first) :=
    (hcomplete first List.mem_cons_self).endsLine _
  have hlines : wholeLines (before ++ header path ++ (first :: more).flatten) =
      wholeLines (before ++ header path ++ first) ++ more := by
    rw [List.flatten_cons, ← List.append_assoc, wholeLines_append hends,
      wholeLines_flatten fun l hl => hcomplete l (List.mem_cons_of_mem _ hl)]
  rw [hlines, LeadsInto, if_neg hpath]
  obtain ⟨k, hk, hkfirst⟩ := hcomplete first List.mem_cons_self
  constructor
  · rintro ⟨passed, l, later, hsplit, hprefix, -⟩
    obtain ⟨later, hsplit⟩ :=
      exists_split_of_not_mem hsplit fun hl => hmore l hl (opens_of_start hprefix)
    obtain ⟨indent, t, heq, habove, hindent, hheader⟩ := exists_header hsplit hprefix
    have hle : before.length ≤ (passed.flatten ++ indent).length := by
      refine hfirst.first _ (t ++ (more.flatten ++ tail)) ?_
      have hwhole := congrArg (· ++ (more.flatten ++ tail)) heq
      rw [hfirst.eq, List.flatten_cons]
      simpa only [List.append_assoc] using hwhole
    rw [hkfirst, List.append_assoc before] at heq
    exact ⟨⟨_, _, eq_of_same_line hheader hk heq habove hindent hle, habove, hindent⟩, hheader⟩
  · rintro ⟨⟨front, indent, rfl, hfront, hindent⟩, hheader⟩
    have hline : wholeLines (indent ++ header path ++ first) =
        [indent ++ header path ++ first] := by
      have hfree : '\n' ∉ indent ++ header path ++ k := by
        simp only [List.mem_append, not_or]
        exact ⟨⟨hindent.newline_not_mem, hheader⟩, hk⟩
      rw [hkfirst, ← List.append_assoc, wholeLines_append_newline hfree]
      rfl
    refine ⟨wholeLines front, indent ++ header path ++ first, more, ?_, ?_, hmore⟩
    · rw [List.append_assoc, List.append_assoc, wholeLines_append hfront, ← List.append_assoc,
        hline, List.append_assoc, List.singleton_append]
    · rw [List.append_assoc, trimStart_indent_append fun c hc => (hindent c hc).1,
        trimStart_header_append]
      exact List.prefix_append _ _

/-- Where a key is found outside of all sections. -/
theorem keyOffset?_nil_eq_some_iff {text key : String} : keyOffset? text [] key = some o ↔
    ∃ passed line later, wholeLines text.toList = passed ++ line :: later ∧
      Reaches key.toList passed line ∧ o = byteLength passed.flatten + margin line := by
  have hopen : keyOffset? text [] key = offsetIn key.toList 0 (wholeLines text.toList) := by
    cases hoffset : offsetIn key.toList 0 (wholeLines text.toList) with
    | none => simp [keyOffset?, hoffset]
    | some n => simp [keyOffset?, hoffset]
  rw [hopen]
  exact offsetIn_zero_eq_some_iff fun l hl => ne_nil_of_mem_wholeLines hl

theorem FirstAt.unique {w before' rest' : List Char} (h : FirstAt w text before rest)
    (h' : FirstAt w text before' rest') : before = before' := by
  have hlength : before.length = before'.length :=
    Nat.le_antisymm (h.first _ _ h'.eq) (h'.first _ _ h.eq)
  have heq := h.eq.symm.trans h'.eq
  rw [List.append_assoc, List.append_assoc] at heq
  exact (List.append_inj heq hlength).1

theorem belowHeaderLine_iff {between after : List Char}
    (hfirst : FirstAt (header path) text before (between ++ after)) :
    BelowHeaderLine text path (byteLength (before ++ header path ++ between)) ↔
      AtLineStart before ∧ '\n' ∉ header path ∧ '\n' ∈ between := by
  constructor
  · rintro ⟨before', between', after', hfirst', hlength, hstart⟩
    obtain rfl := hfirst.unique hfirst'
    have htext := hfirst'.eq.symm.trans hfirst.eq
    rw [← List.append_assoc, ← List.append_assoc] at htext
    rwa [List.append_cancel_left (eq_of_byteLength htext hlength)] at hstart
  · exact fun hstart => ⟨before, between, after, hfirst, rfl, hstart⟩

/-- On the line of the header itself, a key does not have only white space before it. -/
theorem not_inSection_of_header_line {after : List Char}
    (htext : text = before ++ header path ++ indent ++ after) (hindent : '\n' ∉ indent) :
    ¬ InSection text path (byteLength (before ++ header path ++ indent)) := by
  rintro ⟨above, white, rest, htext', hlength, habove, hwhite, -⟩
  obtain ⟨w, hw⟩ := header_eq_concat path
  have hplace : above ++ white = before ++ w ++ (']' :: indent) := by
    rw [eq_of_byteLength (htext'.symm.trans htext) hlength, hw]
    simp
  have hbracket : ']' ∉ white := fun hmem => absurd (hwhite ']' hmem).1 (by decide)
  rcases List.append_eq_append_iff.mp hplace with ⟨d, -, rfl⟩ | ⟨d, rfl, hd⟩
  · simp at hbracket
  · rcases d with _ | ⟨c, d⟩
    · obtain rfl : ']' :: indent = white := hd
      exact hbracket List.mem_cons_self
    · have hnewline : '\n' ∈ ']' :: indent :=
        hd ▸ List.mem_append_left white (newline_mem_of_endsLine habove (List.cons_ne_nil c d))
      simp [hindent] at hnewline

theorem inSection_iff_below (hpath : path ≠ []) (h : SetBelow text path key o) :
    KeyAt text key o ∧ (InSection text path o ↔ BelowHeaderLine text path o) := by
  obtain ⟨before, rest, hfirst, passed, line, later, hsplit, hreaches, rfl⟩ := h
  obtain ⟨indent, after, rfl, hindent, hmargin, hends⟩ := exists_indent hsplit hreaches.sets
  have hcomplete := completeLine_of_split hsplit
  have hplace : byteLength (before ++ header path) + (byteLength passed.flatten + margin line) =
      byteLength (before ++ header path ++ (passed.flatten ++ indent)) := by
    rw [byteLength_append _ (passed.flatten ++ indent), byteLength_append passed.flatten, hmargin]
  have htext : text = before ++ header path ++ (passed.flatten ++ indent) ++ (key ++ after) := by
    rw [hfirst.eq]
    simp only [List.append_assoc]
  rw [hplace]
  refine ⟨⟨_, after, by rw [htext, List.append_assoc _ key], rfl, hends⟩, ?_⟩
  rw [belowHeaderLine_iff hfirst]
  cases passed with
  | nil =>
    refine iff_of_false (not_inSection_of_header_line htext hindent.newline_not_mem) ?_
    exact fun hstart => hindent.newline_not_mem hstart.2.2
  | cons first more =>
    have hnewline : '\n' ∈ (first :: more).flatten ++ indent := by
      obtain ⟨k, -, rfl⟩ := hcomplete first List.mem_cons_self
      simp
    have hfilled : (first :: more).flatten ≠ [] := by
      simpa using fun hfirst => absurd hfirst (hcomplete first List.mem_cons_self).ne_nil
    have habove : EndsLine (before ++ header path ++ (first :: more).flatten) :=
      (endsLine_append_iff hfilled).mpr (endsLine_flatten hcomplete)
    have hmore : ∀ l ∈ more, ¬ Opens l := fun l hl => hreaches.within l (by simp [hl])
    rw [List.append_assoc (first :: more).flatten] at hfirst
    rw [← List.append_assoc (before ++ header path)] at htext ⊢
    rw [inSection_iff htext habove hindent, leadsInto_iff hpath hfirst hcomplete hmore]
    simp only [hnewline, and_true]

/-- Outside of all sections, a header in the first line is passed over. -/
theorem inSection_iff_onFirstLine {text key : String} (h : keyOffset? text [] key = some o) :
    KeyAt text.toList key.toList o ∧ (InSection text.toList [] o ↔
      ∀ l ∈ (wholeLines text.toList).head?, Opens l → OnFirstLine text.toList o) := by
  obtain ⟨passed, line, later, hsplit, hreaches, rfl⟩ := keyOffset?_nil_eq_some_iff.mp h
  obtain ⟨indent, after, htext, hindent, hmargin, hends⟩ := exists_indent hsplit hreaches.sets
  have hcomplete := completeLine_of_split hsplit
  rw [hmargin, ← byteLength_append]
  refine ⟨⟨_, after, by rw [htext, List.append_assoc _ key.toList], rfl, hends⟩, ?_⟩
  rw [inSection_iff htext (endsLine_flatten hcomplete) hindent, wholeLines_flatten hcomplete,
    LeadsInto, if_pos rfl, hsplit]
  cases passed with
  | nil =>
    refine iff_of_true (List.forall_mem_nil _) fun _ _ _ => ⟨_, _, htext, rfl, ?_⟩
    exact hindent.newline_not_mem
  | cons first more =>
    have hmore : ∀ l ∈ more, ¬ Opens l := fun l hl => hreaches.within l (by simp [hl])
    have hpast : ¬ OnFirstLine text.toList (byteLength ((first :: more).flatten ++ indent)) := by
      rintro ⟨before, rest, htext', hlength, hfree⟩
      rw [eq_of_byteLength (htext'.symm.trans htext) hlength] at hfree
      obtain ⟨k, -, rfl⟩ := hcomplete first List.mem_cons_self
      simp at hfree
    simp only [List.forall_mem_cons, hpast, imp_false, List.cons_append, List.head?_cons,
      Option.mem_some_iff, forall_eq']
    exact and_iff_left hmore

/-- A key is found where it stands. Its place is in the section that was asked for just when the
first text that looks like the header of the section is one, and the key is on a later line.
Outside of all sections the place is right unless the first line is a header, with the key below
it. -/
theorem key_in_section_iff {text key : String} (h : keyOffset? text path key = some o) :
    KeyAt text.toList key.toList o ∧
      (path ≠ [] → (InSection text.toList path o ↔ BelowHeaderLine text.toList path o)) ∧
      (path = [] → (InSection text.toList path o ↔
        ∀ l ∈ (wholeLines text.toList).head?, Opens l → OnFirstLine text.toList o)) := by
  by_cases hpath : path = []
  · subst hpath
    obtain ⟨hkey, hiff⟩ := inSection_iff_onFirstLine h
    exact ⟨hkey, fun hne => absurd rfl hne, fun _ => hiff⟩
  · obtain ⟨hkey, hiff⟩ := inSection_iff_below hpath ((keyOffset?_eq_some_iff hpath).mp h)
    exact ⟨hkey, fun _ => hiff, fun hnil => absurd hnil hpath⟩

/-- The name of a section in a remark, and a key of another section below it. -/
def remarkText : String := "[agent]\n# see [routing]\nname = 1\n"

/-- The remark is not a header, and the key below it belongs elsewhere. -/
theorem key_in_section_iff_remark :
    keyOffset? remarkText ["routing"] "name" = some 24 ∧
      KeyAt remarkText.toList "name".toList 24 ∧ ¬ InSection remarkText.toList ["routing"] 24 := by
  have hfound : keyOffset? remarkText ["routing"] "name" = some 24 := by decide
  obtain ⟨hkey, hiff, -⟩ := key_in_section_iff hfound
  refine ⟨hfound, hkey, fun hin => ?_⟩
  obtain ⟨before, between, after, hfirst, -, ⟨front, indent, rfl, hfront, hindent⟩, -⟩ :=
    (hiff (List.cons_ne_nil _ _)).mp hin
  have hdrop : dropThrough? (header ["routing"]) remarkText.toList =
      some (23, "\nname = 1\n".toList) := by decide
  have hlength : 23 = byteLength (front ++ indent ++ header ["routing"]) := by
    have hthrough := (dropThrough?_eq_some_iff (by decide)).mpr ⟨_, hfirst, rfl⟩
    exact (Prod.mk.inj (Option.some.inj (hdrop.symm.trans hthrough))).1
  have htext : front ++ indent ++ header ["routing"] ++ (between ++ after) =
      "[agent]\n".toList ++ "# see ".toList ++ header ["routing"] ++ "\nname = 1\n".toList :=
    hfirst.eq.symm.trans (by decide)
  have hcut : front ++ indent = "[agent]\n".toList ++ "# see ".toList :=
    List.append_cancel_right (eq_of_byteLength htext (hlength.symm.trans (by decide)))
  have hends : EndsLine "[agent]\n".toList := by simp [EndsLine]
  obtain rfl := eq_of_indent hcut hfront hends hindent.newline_not_mem (by decide)
  obtain rfl := List.append_cancel_left hcut
  exact absurd (hindent '#' List.mem_cons_self).1 (by decide)

/-- The key below a header in the first line is not outside of all sections. -/
theorem not_forall_key_in_section : ¬ ∀ text path key o, key ≠ "" →
    keyOffset? text path key = some o → InSection text.toList path o := by
  intro h
  have hfound : keyOffset? "[agent]\nname = 1\n" [] "name" = some 8 := by decide
  have hin := h _ _ _ _ (by decide) hfound
  rw [(inSection_iff_onFirstLine hfound).2] at hin
  obtain ⟨before, rest, htext, hlength, hfree⟩ := hin _ rfl (by decide)
  have hbefore : before = "[agent]\n".toList :=
    eq_of_byteLength (s := "name = 1\n".toList) htext.symm hlength
  rw [hbefore] at hfree
  exact hfree (by decide)

end TierRouting.Config
