/-! How alike two words are, and the nearest of a list of words. -/
namespace TierRouting.Config

/-- Marks the first free `c` among the characters from place `low` to before `high`, which count
from `j` on. -/
def takeMatch? (c : Char) (low high : Nat) : Nat → List (Char × Bool) → Option (List (Char × Bool))
  | _, [] => none
  | j, (d, taken) :: r =>
    if high ≤ j then none
    else if low ≤ j ∧ d = c ∧ taken = false then some ((d, true) :: r)
    else (takeMatch? c low high (j + 1) r).map ((d, taken) :: ·)

/-- The characters of the first word that find a partner within `reach` places, in order, and the
second word with the partners marked. -/
def pairUp (reach : Nat) :
    Nat → List Char → List (Char × Bool) → List Char × List (Char × Bool)
  | _, [], b => ([], b)
  | i, c :: r, b =>
    match takeMatch? c (i - reach) (i + reach + 1) 0 b with
    | some b =>
      let (paired, b) := pairUp reach (i + 1) r b
      (c :: paired, b)
    | none => pairUp reach (i + 1) r b

/-- The Jaro similarity: shares of paired characters, less half of those out of order. -/
def jaro (a b : List Char) : Float :=
  if a.isEmpty && b.isEmpty then 1.0
  else if a.isEmpty || b.isEmpty then 0.0
  else
    let (paired, marked) := pairUp (max a.length b.length / 2 - 1) 0 a (b.map (·, false))
    let partners := (marked.filter (·.2)).map (·.1)
    let m := paired.length
    let outOfOrder := ((paired.zip partners).filter fun (c, d) => c != d).length / 2
    if m = 0 then 0.0
    else
      (Float.ofNat m / Float.ofNat a.length + Float.ofNat m / Float.ofNat b.length +
        Float.ofNat (m - outOfOrder) / Float.ofNat m) / 3.0

def commonStart : List Char → List Char → Nat
  | c :: a, d :: b => if c = d then commonStart a b + 1 else 0
  | _, _ => 0

/-- The Jaro-Winkler similarity: a common start of up to four characters adds to a high score. -/
def similarity (a b : List Char) : Float :=
  let score := jaro a b
  if 0.7 < score then score + 0.1 * Float.ofNat (commonStart (a.take 4) b) * (1.0 - score)
  else score

/-- A less similar word is no suggestion. -/
def suggestionThreshold : Float := 0.75

/-- The word most similar to an unknown one; of equally similar words the last. -/
def suggest? (unknown : String) (words : List String) : Option String :=
  let scored := words.map fun w => (w, similarity unknown.toList w.toList)
  let best := (scored.filter fun (_, score) => suggestionThreshold < score).foldl
    (fun (best : Option (String × Float)) (w, score) =>
      match best with
      | some (v, top) => if top ≤ score then some (w, score) else some (v, top)
      | none => some (w, score))
    none
  best.map (·.1)

end TierRouting.Config
