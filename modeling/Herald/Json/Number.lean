import Herald.Number.Word
import Herald.Text.Ascii
import Herald.Value

/-!
# Reading numbers

A number without fraction and exponent that fits 64 binary digits is whole. Any other is read in steps of that size: as many
leading digits as fit make the significand, the digits left out and the exponent make a power of ten, and significand and power,
each rounded to a binary number, are multiplied or divided. A result beyond the range is no number.
-/

namespace Herald.Json

/-- The largest whole number of 64 binary digits. -/
def maxWord : Nat := Word.count - 1

/-- A number as it is written. -/
structure NumberText where
  negative : Bool
  whole : List Char
  fraction : List Char
  /-- The exponent with its sign, or nothing. -/
  exponent : Option (Bool × List Char)

/-- Takes digits into a significand as long as it fits. Gives the significand and how many digits are left over. -/
def takeDigits : Nat → List Char → Nat × Nat
  | significand, [] => (significand, 0)
  | significand, d :: rest =>
    let next := significand * 10 + (d.toNat - 48)
    if next ≤ maxWord then takeDigits next rest else (significand, rest.length + 1)

/-- A significand times a power of ten. Powers beyond the range are divided out in steps. -/
def scaled : Nat → Binary64 → Int → Option Binary64
  | 0, _, _ => some (.zero false)
  | fuel + 1, f, exponent =>
    if exponent.natAbs ≤ 308 then
      let power := Binary64.ofNat (Nat.pow 10 exponent.natAbs)
      if 0 ≤ exponent then
        let product := f.mul power
        if product.isInfinite then none else some product
      else some (f.div power)
    else if f.isZero then some f
    else if 0 ≤ exponent then none
    else scaled fuel (f.div (.ofNat (Nat.pow 10 308))) (exponent + 308)

/-- The number with a fraction that a text stands for. -/
def NumberText.float? (t : NumberText) : Option Binary64 :=
  let (significand, skipped) := takeDigits 0 t.whole
  let (significand, unread) := takeDigits significand t.fraction
  let shift : Int := skipped - (t.fraction.length - unread : Nat)
  let power : Option Int := match t.exponent with
    | none => some shift
    | some (negative, digits) =>
      let n := Text.natOfDigits digits
      if n < Nat.pow 2 31 then some (if negative then shift - n else shift + n) else none
  match power, t.exponent with
  | some power, _ => (scaled 4 (.ofNat significand) power).map (·.withSign t.negative)
  | none, some (negative, _) => if significand ≠ 0 ∧ !negative then none else some (.zero t.negative)
  | none, none => none

/-- The value of a number, if it is in range. -/
def NumberText.value? (t : NumberText) : Option Value :=
  let n := Text.natOfDigits t.whole
  if t.fraction.isEmpty && t.exponent.isNone && n ≤ maxWord then
    if !t.negative then some (.unsigned n)
    else if n = 0 ∨ Word.half < n then some (.float ((Binary64.ofNat n).withSign true))
    else some (.signed (-n))
  else t.float?.map .float

/-- Reads the exponent of a number, if one follows. -/
def readExponent : List Char → Option (Option (Bool × List Char) × List Char)
  | c :: rest =>
    if c = 'e' ∨ c = 'E' then
      let (negative, rest) := match rest with
        | '-' :: r => (true, r)
        | '+' :: r => (false, r)
        | r => (false, r)
      match rest.takeWhile Text.isDigit with
      | [] => none
      | digits => some (some (negative, digits), rest.dropWhile Text.isDigit)
    else some (none, c :: rest)
  | [] => some (none, [])

/-- Reads the text of a number: a zero does not start a longer run of digits, and a point has digits on both sides. -/
def readNumberText (cs : List Char) : Option (NumberText × List Char) :=
  let (negative, cs) := match cs with
    | '-' :: rest => (true, rest)
    | cs => (false, cs)
  let whole := cs.takeWhile Text.isDigit
  let rest := cs.dropWhile Text.isDigit
  match whole with
  | [] => none
  | '0' :: _ :: _ => none
  | _ =>
    let fraction := match rest with
      | '.' :: r => some (r.takeWhile Text.isDigit, r.dropWhile Text.isDigit)
      | r => some ([], r)
    match rest, fraction with
    | '.' :: _, some ([], _) => none
    | _, some (digits, rest) => (readExponent rest).map fun (e, rest) => (⟨negative, whole, digits, e⟩, rest)
    | _, none => none

end Herald.Json
