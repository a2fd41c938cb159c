/-!
# Numbers of 64 binary digits

A number with a fraction is kept to 53 binary digits. Here it is its sign, significand and exponent, so that reading and writing
are exact arithmetic on natural numbers and nothing depends on the machine. `ofRatio` is the one place where a number is rounded:
to the nearest, and a tie to the even significand.
-/

namespace Herald

/-- A binary number: `finite s m e` is `m · 2 ^ e`, negative when `s` holds, with `m < 2 ^ 53`, `-1074 ≤ e`, and `2 ^ 52 ≤ m`
unless `e = -1074`. -/
inductive Binary64
  | finite (negative : Bool) (significand : Nat) (exponent : Int)
  | infinite (negative : Bool)
  | notANumber
  deriving DecidableEq, Repr

namespace Binary64

/-- Zero, of either sign. -/
def zero (negative : Bool) : Binary64 :=
  .finite negative 0 (-1074)

/-- The natural number nearest to `num / den`, the even one of two. -/
def roundHalfEven (num den : Nat) : Nat :=
  let quotient := num / den
  let twice := 2 * (num % den)
  if twice < den then quotient else if den < twice then quotient + 1 else quotient + quotient % 2

/-- Numerator and denominator of `num / den / 2 ^ e`. -/
def descale (num den : Nat) (e : Int) : Nat × Nat :=
  if 0 ≤ e then (num, den * Nat.pow 2 e.toNat) else (num * Nat.pow 2 (-e).toNat, den)

/-- The binary number nearest to `num / den`. -/
def ofRatio (negative : Bool) (num den : Nat) : Binary64 :=
  if num = 0 then zero negative
  else
    let first : Int := (num.log2 : Int) - den.log2 - 52
    let (n, d) := descale num den first
    let e := max (if n / d < Nat.pow 2 52 then first - 1 else first) (-1074)
    let (n, d) := descale num den e
    let m := roundHalfEven n d
    let (m, e) := if m = Nat.pow 2 53 then (Nat.pow 2 52, e + 1) else (m, e)
    if 971 < e then .infinite negative else .finite negative m e

/-- The binary number nearest to a natural number. -/
def ofNat (n : Nat) : Binary64 :=
  ofRatio false n 1

/-- The binary number nearest to `n · 10 ^ e`. Exponents far outside the range are settled without the power. -/
def ofDecimal (negative : Bool) (n : Nat) (e : Int) : Binary64 :=
  let size : Int := (Nat.toDigits 10 n).length + e
  if n = 0 ∨ size < -330 then zero negative
  else if 310 < size then .infinite negative
  else if 0 ≤ e then ofRatio negative (n * Nat.pow 10 e.toNat) 1
  else ofRatio negative n (Nat.pow 10 (-e).toNat)

/-- The product, rounded. Only finite factors are multiplied; others stay what they are. -/
def mul : Binary64 → Binary64 → Binary64
  | .finite s m e, .finite s' m' e' =>
    let (n, d) := descale (m * m') 1 (-(e + e'))
    ofRatio (s != s') n d
  | .finite _ _ _, y => y
  | x, _ => x

/-- The quotient, rounded, by a number that is not zero. -/
def div : Binary64 → Binary64 → Binary64
  | .finite s m e, .finite s' m' e' =>
    let (n, d) := descale m m' (e' - e)
    ofRatio (s != s') n d
  | x, _ => x

/-- The number with the other sign when `negative` holds. -/
def withSign (negative : Bool) : Binary64 → Binary64
  | .finite s m e => .finite (s != negative) m e
  | .infinite s => .infinite (s != negative)
  | .notANumber => .notANumber

/-- Whether the number is zero, of either sign. -/
def isZero : Binary64 → Bool
  | .finite _ m _ => m == 0
  | _ => false

/-- Whether the number is beyond the range. -/
def isInfinite : Binary64 → Bool
  | .infinite _ => true
  | _ => false

end Binary64

end Herald
