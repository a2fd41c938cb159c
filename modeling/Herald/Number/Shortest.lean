import Herald.Number.Binary64

/-!
# The shortest decimal of a binary number

The fewest digits that read back as the same number, and of those the nearest to it. For one digit, two digits and so on the two
neighbours of the number on the decimal grid are tried; the first grid with a neighbour in the rounding interval gives the
digits. Seventeen digits always do.
-/

namespace Herald

/-- A decimal `d₀.d₁d₂… · 10 ^ exponent`. -/
structure Decimal where
  digits : List Char
  exponent : Int
  deriving DecidableEq, Repr

namespace Binary64

/-- The factors that bring multiples of `2 ^ (e - 2)` and of `10 ^ s` to a common unit. -/
def units (e s : Int) : Nat × Nat :=
  (Nat.pow 2 (e - 2).toNat * Nat.pow 10 (-s).toNat, Nat.pow 10 s.toNat * Nat.pow 2 (2 - e).toNat)

/-- Whether `c · 10 ^ s` rounds to `m · 2 ^ e`: whether it is between the midpoints to the two neighbours, the midpoints
included when `m` is even. -/
def reads (m : Nat) (e s : Int) (c : Nat) : Bool :=
  let (a, b) := units e s
  let below := if m = Nat.pow 2 52 ∧ -1074 < e then 1 else 2
  let low := (4 * m - below) * a
  let high := (4 * m + 2) * a
  if m % 2 = 0 then low ≤ c * b && c * b ≤ high else low < c * b && c * b < high

/-- The nearer of the two neighbours of `m · 2 ^ e` on the grid of `10 ^ s` that rounds to it, if one does. -/
def onGrid? (m : Nat) (e s : Int) : Option Nat :=
  let (a, b) := units e s
  let c := 4 * m * a / b
  let rest := 4 * m * a % b
  let lower := reads m e s c
  let upper := reads m e s (c + 1)
  if lower && upper then some (if 2 * rest < b ∨ (2 * rest = b ∧ c % 2 = 0) then c else c + 1)
  else if lower then some c
  else if upper then some (c + 1)
  else none

/-- The exponent `p` with `10 ^ p ≤ m · 2 ^ e < 10 ^ (p + 1)`, searched upwards from `p`. -/
def decimalExponent (m : Nat) (e : Int) : Nat → Int → Int
  | 0, p => p
  | fuel + 1, p =>
    let (a, b) := units e (p + 1)
    if b ≤ 4 * m * a then decimalExponent m e fuel (p + 1) else p

/-- The digits of a number without the zeros at its end. -/
def significantDigits (n : Nat) : List Char :=
  ((Nat.toDigits 10 n).reverse.dropWhile (· == '0')).reverse

/-- The shortest decimal of `m · 2 ^ e`, where `m` is not zero. -/
def shortest (m : Nat) (e : Int) : Decimal :=
  let guess := Int.fdiv (((m.log2 : Int) + e) * 30103) 100000 - 1
  let p := decimalExponent m e 4 guess
  match (List.range 17).findSome? fun n : Nat => (onGrid? m e (p - n)).map fun c => (c, p - n) with
  | some (c, s) => ⟨significantDigits c, s + (Nat.toDigits 10 c).length - 1⟩
  | none => ⟨['0'], 0⟩

end Binary64

/-- How a number with a fraction is laid out: which exponents are written without an exponent, and whether a whole number keeps a
point and a zero. -/
structure FloatLayout where
  isPlain : Int → Bool
  keepsPoint : Bool

namespace Decimal

/-- The decimal without an exponent. -/
def plain (keepsPoint : Bool) (d : Decimal) : List Char :=
  if d.exponent < 0 then
    ['0', '.'] ++ List.replicate (-d.exponent - 1).toNat '0' ++ d.digits
  else
    let size := d.exponent.toNat + 1
    let whole := d.digits.take size ++ List.replicate (size - d.digits.length) '0'
    match d.digits.drop size with
    | [] => if keepsPoint then whole ++ ['.', '0'] else whole
    | fraction => whole ++ '.' :: fraction

/-- The decimal with an exponent, which has its sign written always. -/
def scientific (d : Decimal) : List Char :=
  let mantissa := match d.digits with
    | [] => ['0']
    | [c] => [c]
    | c :: rest => c :: '.' :: rest
  mantissa ++ 'e' :: (if d.exponent < 0 then '-' else '+') :: Nat.toDigits 10 d.exponent.natAbs

end Decimal

/-- The text of a binary number. -/
def Binary64.render (layout : FloatLayout) : Binary64 → String
  | .notANumber => "NaN"
  | .infinite negative => if negative then "-inf" else "inf"
  | .finite negative m e =>
    let d : Decimal := if m = 0 then ⟨['0'], 0⟩ else shortest m e
    let body := if layout.isPlain d.exponent then d.plain layout.keepsPoint else d.scientific
    String.ofList (if negative then '-' :: body else body)

end Herald
