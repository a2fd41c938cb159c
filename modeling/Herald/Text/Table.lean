import Herald.Text.Ascii

/-!
# Tables of characters

A table is written in rows of numbers in base 16. A row names a character, or a run of characters by its two ends, with a step where
only every second or third one of the run belongs to it. Behind a sign of equality it gives the numbers that the table holds for them:
`41-5a=61+1` gives 61 for 41 and one more for each that follows, and `c6=61.65` gives two numbers. A row without such a sign only says
that its characters are in the table.
-/

namespace Herald.Text

/-- A row of a table. -/
structure Row where
  first : Nat
  last : Nat
  step : Nat
  values : List Nat
  /-- How much a value grows from one character of the run to the next. -/
  rise : Nat
  deriving DecidableEq, Repr

/-- A table of characters: of two rows with the same character, the first counts. -/
abbrev Table := List Row

/-- The value of a number in base 16. -/
def natOfHexDigits (ds : List Char) : Nat :=
  ds.foldl (fun n d => n * 16 + (hexValue? d).getD 0) 0

/-- What stands before the first of a sign, and what stands behind it. -/
def cutAt (sign : Char) (cs : List Char) : List Char × List Char :=
  (cs.takeWhile (· != sign), (cs.dropWhile (· != sign)).drop 1)

/-- The parts of a text between the signs in it. -/
def partsAt (sign : Char) : List Char → List (List Char)
  | [] => [[]]
  | c :: cs =>
    if c = sign then [] :: partsAt sign cs
    else match partsAt sign cs with
      | [] => [[c]]
      | part :: parts => (c :: part) :: parts

/-- The parts joined by the sign again. -/
def joinWith (sign : Char) : List (List Char) → List Char
  | [] => []
  | [part] => part
  | part :: parts => part ++ sign :: joinWith sign parts

/-- There is at least one part. -/
theorem partsAt_ne_nil (sign : Char) (cs : List Char) : partsAt sign cs ≠ [] := by
  cases cs with
  | nil => simp [partsAt]
  | cons c cs =>
    unfold partsAt
    split
    · simp
    · split <;> simp

namespace Row

/-- Reads a row. -/
def ofChars (cs : List Char) : Row :=
  let (run, result) := cutAt '=' cs
  let (ends, step) := cutAt '/' run
  let (first, last) := cutAt '-' ends
  let (values, rise) := cutAt '+' result
  { first := natOfHexDigits first
    last := natOfHexDigits (if last.isEmpty then first else last)
    step := if step.isEmpty then 1 else natOfHexDigits step
    values := if values.isEmpty then [] else (partsAt '.' values).map natOfHexDigits
    rise := natOfHexDigits rise }

/-- What the row holds for the character of a number, if that character belongs to it. -/
def find? (r : Row) (n : Nat) : Option (List Nat) :=
  if r.first ≤ n ∧ n ≤ r.last ∧ (n - r.first) % r.step = 0 then
    some (r.values.map (· + (n - r.first) / r.step * r.rise))
  else none

end Row

namespace Table

/-- Reads the lines of a table, in which a blank stands between two rows. -/
def ofLines (lines : List String) : Table :=
  lines.flatMap fun line => (partsAt ' ' line.toList).map Row.ofChars

/-- What a table holds for a character. -/
def find? (t : Table) (c : Char) : Option (List Nat) :=
  t.findSome? (·.find? c.toNat)

/-- Whether a character is in a table. -/
def contains (t : Table) (c : Char) : Bool :=
  t.any fun r => (r.find? c.toNat).isSome

end Table

end Herald.Text
