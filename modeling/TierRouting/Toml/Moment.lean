import TierRouting.Toml.Scalar

/-! Dates and times, which stand for their text in a settled form. -/
namespace TierRouting.Toml

open Config (Value)

/-- Exactly `n` digits. -/
def readFixed (n : Nat) : Reader (List Char) := fun cs =>
  let digits := cs.take n
  if digits.length = n && digits.all Char.isDigit then some (digits, cs.drop n) else none

/-- Two digits whose number lies between `least` and `most`. -/
def readTwo (least most : Nat) : Reader (List Char) := fun cs => do
  let (digits, rest) ← readFixed 2 cs
  let n := Decimal.digitsValue 10 digits
  if least ≤ n ∧ n ≤ most then some (digits, rest) else none

def dropChar? (c : Char) : List Char → Option (List Char)
  | d :: r => if d = c then some r else none
  | [] => none

def daysInMonth (year month : Nat) : Nat :=
  if month = 2 then
    if year % 4 = 0 ∧ (year % 100 ≠ 0 ∨ year % 400 = 0) then 29 else 28
  else if month = 4 ∨ month = 6 ∨ month = 9 ∨ month = 11 then 30
  else 31

def readDate : Reader (List Char) := fun cs => do
  let (year, r) ← readFixed 4 cs
  let r ← dropChar? '-' r
  let (month, r) ← readTwo 1 12 r
  let r ← dropChar? '-' r
  let (day, rest) ←
    readTwo 1 (daysInMonth (Decimal.digitsValue 10 year) (Decimal.digitsValue 10 month)) r
  some (year ++ '-' :: month ++ '-' :: day, rest)

/-- Nanoseconds without the zeros at their end. -/
def fractionText (digits : List Char) : List Char :=
  match ((digits.take 9).reverse.dropWhile (· == '0')).reverse with
  | [] => []
  | ds => '.' :: ds

def readTime : Reader (List Char) := fun cs => do
  let (hour, r) ← readTwo 0 23 cs
  let r ← dropChar? ':' r
  let (minute, r) ← readTwo 0 59 r
  let r ← dropChar? ':' r
  let (second, r) ← readTwo 0 60 r
  let time := hour ++ ':' :: minute ++ ':' :: second
  match r with
  | '.' :: d :: r =>
    if d.isDigit then
      some (time ++ fractionText (d :: r.takeWhile Char.isDigit), r.dropWhile Char.isDigit)
    else none
  | r => some (time, r)

/-- The offset from universal time, where there is one; none at all is written with a plus. -/
def readOffset : List Char → Option (List Char × List Char)
  | 'Z' :: r => some (['Z'], r)
  | 'z' :: r => some (['Z'], r)
  | c :: r =>
    if c = '+' ∨ c = '-' then do
      let (hour, r) ← readTwo 0 23 r
      let r ← dropChar? ':' r
      let (minute, rest) ← readTwo 0 59 r
      let sign := if (hour ++ minute).all (· == '0') then '+' else c
      some (sign :: hour ++ ':' :: minute, rest)
    else some ([], c :: r)
  | [] => some ([], [])

def isDateTimeMark (c : Char) : Bool := c == 'T' || c == 't' || c == ' '

/-- A date, a time, or both with an offset. -/
def readMomentText : Reader (List Char) := fun cs =>
  match readDate cs with
  | none => readTime cs
  | some (date, c :: r) =>
    if isDateTimeMark c then
      match readTime r with
      | some (time, r) =>
        (readOffset r).map fun (offset, rest) => (date ++ 'T' :: time ++ offset, rest)
      | none => some (date, c :: r)
    else some (date, c :: r)
  | some (date, []) => some (date, [])

/-- The key under which a table holds the text of a moment. -/
def momentKey : String := "$__toml_private_datetime"

def readMoment : Reader Value := fun cs =>
  (readMomentText cs).map fun (text, rest) =>
    (.table [(momentKey, .string (String.ofList text))], rest)

end TierRouting.Toml
