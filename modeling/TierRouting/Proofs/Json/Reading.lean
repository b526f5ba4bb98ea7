import TierRouting.Proofs.Json.Numerals
import TierRouting.Proofs.Json.Quotation

/-! A value is read back from its text, and the text has no control characters. -/
namespace TierRouting.Json

variable {c : Char} {text : String} {rest : List Char}

mutual

/-- Every number in the value is written as one. -/
def Legible : Json → Prop
  | null | bool _ | string _ => True
  | number text => IsNumeral text
  | array items => ItemsLegible items
  | object members => MembersLegible members

def ItemsLegible : List Json → Prop
  | [] => True
  | v :: r => v.Legible ∧ ItemsLegible r

def MembersLegible : List (String × Json) → Prop
  | [] => True
  | (_, v) :: r => v.Legible ∧ MembersLegible r

end

theorem legible_nat (n : Nat) : (nat n).Legible := by
  rw [nat, Legible]
  exact isNumeral_nat n

theorem legible_float (x : Float) : (float x).Legible := by
  unfold float
  split
  · next hx =>
    rw [Legible]
    exact isNumeral_of_isReal (Decimal.isReal_float hx)
  · rw [Legible]
    trivial

theorem legible_float32 (x : Float32) : (float32 x).Legible := by
  unfold float32
  split
  · next hx =>
    rw [Legible]
    exact isNumeral_of_isReal (Decimal.isReal_float32 hx)
  · rw [Legible]
    trivial

theorem membersLegible_append {a b : List (String × Json)} :
    MembersLegible (a ++ b) ↔ MembersLegible a ∧ MembersLegible b := by
  induction a with
  | nil => simp [MembersLegible]
  | cons m a ih => simp [MembersLegible, ih, and_assoc]

/-- A number ends before the text that follows it. -/
def EndsNumber (rest : List Char) : Prop := ∀ c ∈ rest.head?, isNumberChar c = false

theorem endsNumber_nil : EndsNumber [] := nofun

theorem endsNumber_cons (h : isNumberChar c = false) : EndsNumber (c :: rest) := by
  rintro d ⟨⟩
  exact h

theorem skipSpace_cons (h : isSpace c = false) : skipSpace (c :: rest) = c :: rest := by
  simp [skipSpace, h]

theorem IsNumeral.exists_cons (h : IsNumeral text) :
    ∃ c r, text.toList = c :: r ∧ isNumberChar c = true := by
  obtain ⟨hnumber, hchars⟩ := h
  cases hl : text.toList with
  | nil =>
    rw [hl] at hnumber
    contradiction
  | cons c r => exact ⟨c, r, rfl, hchars c (by simp [hl])⟩

theorem readNumber?_append (h : IsNumeral text) (hrest : EndsNumber rest) :
    readNumber? (text.toList ++ rest) = some (number text, rest) := by
  have htake : rest.takeWhile isNumberChar = [] ∧ rest.dropWhile isNumberChar = rest := by
    cases rest with
    | nil => exact ⟨rfl, rfl⟩
    | cons c r => simp [hrest c rfl]
  rw [readNumber?, List.takeWhile_append_of_pos h.2, List.dropWhile_append_of_pos h.2, htake.1,
    htake.2, List.append_nil]
  simp [h.1]

theorem ne_of_isNumberChar {k : Char} (hc : isNumberChar c = true) (hk : isNumberChar k = false) :
    c ≠ k := by
  rintro rfl
  exact Bool.noConfusion (hc.symm.trans hk)

theorem not_isSpace_of_isNumberChar (hc : isNumberChar c = true) : isSpace c = false := by
  rw [Bool.eq_false_iff]
  intro h
  simp only [isSpace, Bool.or_eq_true, beq_iff_eq, or_assoc] at h
  rcases h with rfl | rfl | rfl | rfl
  · contradiction
  · contradiction
  · contradiction
  · contradiction

/-- The first character tells a number from the other values. -/
theorem readValue?_number (depth : Nat) (h : IsNumeral text) (hrest : EndsNumber rest) :
    readValue? (depth + 1) (text.toList ++ rest) = some (number text, rest) := by
  obtain ⟨c, r, hcons, hc⟩ := h.exists_cons
  have hread := readNumber?_append h hrest
  rw [hcons, List.cons_append] at hread ⊢
  rw [readValue?, skipSpace_cons (not_isSpace_of_isNumberChar hc)]
  have hne {k : Char} {t : List Char} (hk : isNumberChar k = false) : c :: (r ++ rest) ≠ k :: t :=
    fun he => ne_of_isNumberChar hc hk (List.cons.inj he).1
  split
  case h_1 he => exact absurd he (hne rfl)
  case h_2 he => exact absurd he (hne rfl)
  case h_3 he => exact absurd he (hne rfl)
  case h_4 he => exact absurd he (hne rfl)
  case h_5 he => exact absurd he (hne rfl)
  case h_6 he => exact absurd he (hne rfl)
  case h_7 => exact hread

/-- The first character of a value does not belong to what stands around values. -/
theorem exists_chars_eq_cons {v : Json} (hv : v.Legible) :
    ∃ c r, v.chars = c :: r ∧ isSpace c = false ∧ c ≠ ']' := by
  cases v with
  | null => exact ⟨'n', _, rfl, rfl, by decide⟩
  | bool b =>
    cases b with
    | true => exact ⟨'t', _, rfl, rfl, by decide⟩
    | false => exact ⟨'f', _, rfl, rfl, by decide⟩
  | number text =>
    obtain ⟨c, r, hcons, hc⟩ := IsNumeral.exists_cons hv
    exact ⟨c, r, hcons, not_isSpace_of_isNumberChar hc, ne_of_isNumberChar hc rfl⟩
  | string s => exact ⟨'"', _, rfl, rfl, by decide⟩
  | array items => exact ⟨'[', _, rfl, rfl, by decide⟩
  | object members => exact ⟨'\x7b', _, rfl, rfl, by decide⟩

theorem itemChars_cons_cons (v w : Json) (items : List Json) :
    itemChars (v :: w :: items) = v.chars ++ ',' :: itemChars (w :: items) := rfl

theorem memberChars_cons_cons (k : String) (v : Json) (m : String × Json)
    (members : List (String × Json)) : memberChars ((k, v) :: m :: members) =
      quoted k.toList ++ ':' :: v.chars ++ ',' :: memberChars (m :: members) := rfl

theorem exists_itemChars_eq_cons {v : Json} {items : List Json} (hv : ItemsLegible (v :: items)) :
    ∃ c r, itemChars (v :: items) = c :: r ∧ isSpace c = false ∧ c ≠ ']' := by
  obtain ⟨c, r, hcons, hc⟩ := exists_chars_eq_cons hv.1
  cases items with
  | nil => exact ⟨c, r, by rw [itemChars, hcons], hc⟩
  | cons w items => exact ⟨c, _, by rw [itemChars_cons_cons, hcons, List.cons_append], hc⟩

theorem exists_memberChars_eq_cons (m : String × Json) (members : List (String × Json)) :
    ∃ r, memberChars (m :: members) = '"' :: r := by
  cases members with
  | nil => exact ⟨_, rfl⟩
  | cons m members => exact ⟨_, rfl⟩

/-- Texts that are no longer than the depth are read back, whatever follows them. -/
structure ReadsBack (depth : Nat) : Prop where
  value (v : Json) (rest : List Char) : v.Legible → v.chars.length ≤ depth → EndsNumber rest →
    readValue? depth (v.chars ++ rest) = some (v, rest)
  items (v : Json) (items : List Json) (rest : List Char) : ItemsLegible (v :: items) →
    (itemChars (v :: items)).length < depth →
    readItems? depth (itemChars (v :: items) ++ ']' :: rest) = some (v :: items, rest)
  members (m : String × Json) (members : List (String × Json)) (rest : List Char) :
    MembersLegible (m :: members) → (memberChars (m :: members)).length < depth →
    readMembers? depth (memberChars (m :: members) ++ '\x7d' :: rest) = some (m :: members, rest)

namespace ReadsBack

variable {depth : Nat} {v : Json}

theorem value_succ (h : ReadsBack depth) (hv : v.Legible) (hdepth : v.chars.length ≤ depth + 1)
    (hrest : EndsNumber rest) : readValue? (depth + 1) (v.chars ++ rest) = some (v, rest) := by
  match v with
  | null => rfl
  | bool true => rfl
  | bool false => rfl
  | number text => exact readValue?_number depth hv hrest
  | string s =>
    simp only [chars, quoted, List.cons_append, List.append_assoc, List.nil_append]
    rw [readValue?, skipSpace_cons rfl]
    simp only [readQuoted?_flatMap, Option.map_some, String.ofList_toList]
  | array [] => rfl
  | array (w :: items) =>
    simp only [chars, List.cons_append, List.length_cons, List.length_append] at hdepth
    have hitems := h.items w items rest hv (by omega)
    obtain ⟨c, r, hcons, hspace, hne⟩ := exists_itemChars_eq_cons hv
    simp only [chars, List.cons_append, List.append_assoc, List.nil_append]
    rw [hcons, List.cons_append] at hitems ⊢
    rw [readValue?, skipSpace_cons rfl]
    simp only [skipSpace_cons hspace]
    split
    case h_1 he => exact absurd (List.cons.inj he).1 hne
    case h_2 => rw [hitems, Option.map_some]
  | object [] => rfl
  | object (m :: members) =>
    simp only [chars, List.cons_append, List.length_cons, List.length_append] at hdepth
    have hmembers := h.members m members rest hv (by omega)
    obtain ⟨r, hcons⟩ := exists_memberChars_eq_cons m members
    simp only [chars, List.cons_append, List.append_assoc, List.nil_append]
    rw [hcons, List.cons_append] at hmembers ⊢
    rw [readValue?, skipSpace_cons rfl]
    simp [skipSpace_cons (c := '"') rfl, hmembers]

theorem items_succ (h : ReadsBack depth) {items : List Json} (hv : ItemsLegible (v :: items))
    (hdepth : (itemChars (v :: items)).length < depth + 1) :
    readItems? (depth + 1) (itemChars (v :: items) ++ ']' :: rest) = some (v :: items, rest) := by
  cases items with
  | nil =>
    rw [itemChars] at hdepth ⊢
    have hhead := h.value v (']' :: rest) hv.1 (by omega) (endsNumber_cons rfl)
    simp [readItems?, hhead, skipSpace_cons (c := ']') rfl]
  | cons w items =>
    rw [itemChars_cons_cons] at hdepth ⊢
    simp only [List.append_assoc, List.cons_append, List.length_append, List.length_cons]
      at hdepth ⊢
    have hhead := h.value v (',' :: (itemChars (w :: items) ++ ']' :: rest)) hv.1
      (by omega) (endsNumber_cons rfl)
    have htail := h.items w items rest hv.2 (by omega)
    simp [readItems?, hhead, htail, skipSpace_cons (c := ',') rfl]

theorem members_succ (h : ReadsBack depth) {k : String} {members : List (String × Json)}
    (hv : MembersLegible ((k, v) :: members))
    (hdepth : (memberChars ((k, v) :: members)).length < depth + 1) :
    readMembers? (depth + 1) (memberChars ((k, v) :: members) ++ '\x7d' :: rest) =
      some ((k, v) :: members, rest) := by
  cases members with
  | nil =>
    rw [memberChars] at hdepth ⊢
    simp only [quoted, List.cons_append, List.append_assoc, List.length_append, List.length_cons,
      List.nil_append] at hdepth ⊢
    have hvalue := h.value v ('\x7d' :: rest) hv.1 (by omega) (endsNumber_cons rfl)
    rw [readMembers?, skipSpace_cons rfl]
    simp [dropPhrase?, readQuoted?_flatMap, skipSpace_cons (c := ':') rfl, hvalue,
      skipSpace_cons (c := '\x7d') rfl]
  | cons m members =>
    rw [memberChars_cons_cons] at hdepth ⊢
    simp only [quoted, List.cons_append, List.append_assoc, List.length_append, List.length_cons,
      List.nil_append] at hdepth ⊢
    have hvalue := h.value v (',' :: (memberChars (m :: members) ++ '\x7d' :: rest)) hv.1
      (by omega) (endsNumber_cons rfl)
    have htail := h.members m members rest hv.2 (by omega)
    rw [readMembers?, skipSpace_cons rfl]
    simp [dropPhrase?, readQuoted?_flatMap, skipSpace_cons (c := ':') rfl, hvalue, htail,
      skipSpace_cons (c := ',') rfl]

end ReadsBack

theorem readsBack (depth : Nat) : ReadsBack depth := by
  induction depth with
  | zero =>
    refine ⟨fun v rest hv hdepth _ => ?_, fun _ _ _ _ h => absurd h (Nat.not_lt_zero _),
      fun _ _ _ _ h => absurd h (Nat.not_lt_zero _)⟩
    obtain ⟨c, r, hcons, -⟩ := exists_chars_eq_cons hv
    simp [hcons] at hdepth
  | succ depth ih =>
    exact ⟨fun _ _ => ih.value_succ, fun _ _ _ => ih.items_succ, fun _ _ _ => ih.members_succ⟩

theorem read?_text {v : Json} (hv : v.Legible) : read? v.text = some v := by
  have hread := (readsBack (v.text.length + 1)).value v [] hv (by simp [text]) endsNumber_nil
  rw [List.append_nil] at hread
  have hlist : v.text.toList = v.chars := by simp [text]
  rw [read?, hlist, hread]
  rfl

theorem printable_of_isNumberChar (h : isNumberChar c = true) : 32 ≤ c.toNat := by
  simp only [isNumberChar, Bool.or_eq_true, beq_iff_eq, or_assoc] at h
  rcases h with h | rfl | rfl | rfl | rfl | rfl
  · simp only [Char.isDigit, Bool.and_eq_true, decide_eq_true_eq] at h
    exact Nat.le_trans (by decide) (UInt32.le_iff_toNat_le.mp h.1)
  · decide
  · decide
  · decide
  · decide
  · decide

/-- No character is a control. -/
def IsPrintable (cs : List Char) : Prop := ∀ c ∈ cs, 32 ≤ c.toNat

theorem isPrintable_append {a b : List Char} :
    IsPrintable (a ++ b) ↔ IsPrintable a ∧ IsPrintable b := List.forall_mem_append

theorem isPrintable_cons {cs : List Char} :
    IsPrintable (c :: cs) ↔ 32 ≤ c.toNat ∧ IsPrintable cs := List.forall_mem_cons

theorem isPrintable_nil : IsPrintable [] := nofun

mutual

theorem isPrintable_chars (v : Json) (hv : v.Legible) : IsPrintable v.chars := by
  match v with
  | null => simp [chars, isPrintable_cons, isPrintable_nil]
  | bool true => simp [chars, isPrintable_cons, isPrintable_nil]
  | bool false => simp [chars, isPrintable_cons, isPrintable_nil]
  | number text => exact fun c hc => printable_of_isNumberChar (hv.2 c hc)
  | string s => exact fun c => printable_quoted
  | array items =>
    have hitems := isPrintable_itemChars items hv
    simp [chars, isPrintable_append, isPrintable_cons, hitems, isPrintable_nil]
  | object members =>
    have hmembers := isPrintable_memberChars members hv
    simp [chars, isPrintable_append, isPrintable_cons, hmembers, isPrintable_nil]

theorem isPrintable_itemChars (items : List Json) (hv : ItemsLegible items) :
    IsPrintable (itemChars items) := by
  match items with
  | [] => exact isPrintable_nil
  | [v] => exact isPrintable_chars v hv.1
  | v :: w :: items =>
    rw [itemChars_cons_cons]
    have hhead := isPrintable_chars v hv.1
    have htail := isPrintable_itemChars (w :: items) hv.2
    simp [isPrintable_append, isPrintable_cons, hhead, htail]

theorem isPrintable_memberChars (members : List (String × Json)) (hv : MembersLegible members) :
    IsPrintable (memberChars members) := by
  match members with
  | [] => exact isPrintable_nil
  | [(k, v)] =>
    have hkey : IsPrintable (quoted k.toList) := fun c => printable_quoted
    have hvalue := isPrintable_chars v hv.1
    simp [memberChars, isPrintable_append, isPrintable_cons, hkey, hvalue]
  | (k, v) :: m :: members =>
    rw [memberChars_cons_cons]
    have hkey : IsPrintable (quoted k.toList) := fun c => printable_quoted
    have hvalue := isPrintable_chars v hv.1
    have htail := isPrintable_memberChars (m :: members) hv.2
    simp [isPrintable_append, isPrintable_cons, hkey, hvalue, htail]

end

theorem newline_not_mem_chars {v : Json} (hv : v.Legible) : '\n' ∉ v.chars :=
  fun h => absurd (isPrintable_chars v hv '\n' h) (by decide)

end TierRouting.Json
