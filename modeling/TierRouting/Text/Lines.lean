/-! Splitting a text at a separator and joining it again, the phrases that occur in it, and the
space that it takes in UTF-8. -/
namespace TierRouting.Text

/-- The pieces between the separators: one more piece than there are separators. -/
def splitAt (sep : Char) : List Char → List (List Char)
  | [] => [[]]
  | c :: r =>
    if c = sep then [] :: splitAt sep r
    else
      match splitAt sep r with
      | l :: ls => (c :: l) :: ls
      | [] => [[c]]

def joinWith (sep : Char) : List (List Char) → List Char
  | [] => []
  | [l] => l
  | l :: ls => l ++ sep :: joinWith sep ls

/-- The texts before and after the first separator, if there is one. -/
def splitFirst (sep : Char) : List Char → Option (List Char × List Char)
  | [] => none
  | c :: r => if c = sep then some ([], r) else (splitFirst sep r).map fun (a, b) => (c :: a, b)

def lines (cs : List Char) : List (List Char) := splitAt '\n' cs

def unlines (ls : List (List Char)) : List Char := joinWith '\n' ls

/-- The lines with their line ends, none of them empty. -/
def wholeLines : List Char → List (List Char)
  | [] => []
  | c :: r =>
    if c = '\n' then [c] :: wholeLines r
    else
      match wholeLines r with
      | l :: ls => (c :: l) :: ls
      | [] => [[c]]

theorem splitAt_ne_nil (sep : Char) (cs : List Char) : splitAt sep cs ≠ [] := by
  cases cs with
  | nil => simp [splitAt]
  | cons c r =>
    rw [splitAt]
    split
    · simp
    · split <;> simp

theorem joinWith_splitAt (sep : Char) (cs : List Char) : joinWith sep (splitAt sep cs) = cs := by
  induction cs with
  | nil => rfl
  | cons c r ih =>
    rw [splitAt]
    split
    · next h =>
      subst h
      cases hs : splitAt c r with
      | nil => exact absurd hs (splitAt_ne_nil c r)
      | cons l ls => rw [hs] at ih; simp [joinWith, ih]
    · split
      · next l ls hs =>
        rw [hs] at ih
        cases ls <;> simp_all [joinWith]
      · next hs => exact absurd hs (splitAt_ne_nil sep r)

theorem flatten_wholeLines (cs : List Char) : (wholeLines cs).flatten = cs := by
  induction cs with
  | nil => rfl
  | cons c r ih =>
    rw [wholeLines]
    split
    · simp [ih]
    · split
      · next l ls hs => rw [hs] at ih; simp_all
      · next hs => rw [hs] at ih; simp_all

def occursIn (w : List Char) : List Char → Bool
  | [] => w.isEmpty
  | c :: r => w.isPrefixOf (c :: r) || occursIn w r

/-- Passes over the next `skip` characters, then drops every occurrence of `w`. -/
def eraseFrom (w : List Char) : Nat → List Char → List Char
  | _, [] => []
  | skip + 1, _ :: r => eraseFrom w skip r
  | 0, c :: r =>
    if w.isPrefixOf (c :: r) then eraseFrom w (w.length - 1) r else c :: eraseFrom w 0 r

/-- The text without the occurrences of a nonempty `w`, found from left to right. -/
def erase (w : List Char) (cs : List Char) : List Char := eraseFrom w 0 cs

theorem occursIn_iff {w cs : List Char} : occursIn w cs ↔ w <:+: cs := by
  induction cs with
  | nil => cases w <;> simp [occursIn]
  | cons c r ih =>
    simp only [occursIn, Bool.or_eq_true, List.isPrefixOf_iff_prefix, ih, List.infix_cons_iff]

def byteLength : List Char → Nat
  | [] => 0
  | c :: r => c.utf8Size + byteLength r

theorem byteLength_lt_of_sublist {a b : List Char} (h : a.Sublist b) (hne : a ≠ b) :
    byteLength a < byteLength b := by
  induction h with
  | slnil => exact absurd rfl hne
  | @cons a b c _ ih =>
    have hsize := c.utf8Size_pos
    simp only [byteLength]
    by_cases hab : a = b
    · subst hab
      omega
    · have := ih hab
      omega
  | @cons_cons a b c _ ih =>
    have := ih fun hab => hne (by rw [hab])
    simp only [byteLength]
    omega

/-- The longest start of a text that takes at most `n` bytes. -/
def takeBytes : Nat → List Char → List Char
  | _, [] => []
  | n, c :: r => if c.utf8Size ≤ n then c :: takeBytes (n - c.utf8Size) r else []

end TierRouting.Text
