import Herald.Number.Binary64
import Herald.Number.Word
import Herald.Text.Ascii

/-!
# Numbers as they are written

Numbers alone in a text: whole ones that fit 64 binary digits, and ones with a fraction or an exponent, read to the nearest binary
number.
-/

namespace Herald.Written

/-- Splits off a sign. -/
def sign : List Char → Bool × List Char
  | '+' :: rest => (false, rest)
  | '-' :: rest => (true, rest)
  | cs => (false, cs)

/-- Whether some characters are digits, at least one. -/
def areDigits (cs : List Char) : Bool :=
  !cs.isEmpty && cs.all Text.isDigit

/-- A whole number below `2 ^ 64`. A plus in front of it is allowed. -/
def count? (text : String) : Option Nat :=
  let digits := match text.toList with
    | '+' :: rest => rest
    | cs => cs
  if areDigits digits then
    let n := Text.natOfDigits digits
    if Word.fits n then some n else none
  else none

/-- A whole number from `-2 ^ 63` on and below `2 ^ 63`, with a sign or without. -/
def whole? (text : String) : Option Int :=
  let (negative, digits) := sign text.toList
  if areDigits digits then
    let n : Int := if negative then -(Text.natOfDigits digits : Int) else Text.natOfDigits digits
    if Word.fitsSigned n then some n else none
  else none

/-- The exponent that ends a number, or zero where nothing is left. -/
def exponent? : List Char → Option Int
  | [] => some 0
  | c :: rest =>
    let (negative, digits) := sign rest
    if (c = 'e' ∨ c = 'E') ∧ areDigits digits then
      some (if negative then -(Text.natOfDigits digits : Int) else Text.natOfDigits digits)
    else none

/-- A number in digits, with a point anywhere among them or at an end, and an exponent. -/
def decimal? (text : String) : Option Binary64 := do
  let (negative, cs) := sign text.toList
  let whole := cs.takeWhile Text.isDigit
  let (decimals, rest) := match cs.dropWhile Text.isDigit with
    | '.' :: rest => (rest.takeWhile Text.isDigit, rest.dropWhile Text.isDigit)
    | rest => ([], rest)
  let e ← exponent? rest
  if areDigits (whole ++ decimals) then
    return .ofDecimal negative (Text.natOfDigits (whole ++ decimals)) (e - decimals.length)
  else none

end Herald.Written
