import Herald.Text.Table

/-!
# Numeric hosts of 32 digits

A host in numbers is four of them below 256. In an address there may be fewer, and then the last one fills the places that are left:
`1.2.3` is `1.2.0.3`, and `256` is `0.0.1.0`. A number is written in base 10, in base 8 with a zero before it, or in base 16 with `0x`.
-/

namespace Herald.Url.Address4

/-- The value of digits in a base, if each of them is below the base. -/
def valueIn? (base : Nat) (ds : List Char) : Option Nat :=
  ds.foldl (fun n d => do
    let n ← n
    let d ← Text.hexValue? d
    if d < base then some (n * base + d) else none) (some 0)

/-- Reads a number. The sign of a base alone is zero. -/
def number? : List Char → Option Nat
  | [] => none
  | '0' :: 'x' :: ds => valueIn? 16 ds
  | '0' :: 'X' :: ds => valueIn? 16 ds
  | ['0'] => some 0
  | '0' :: ds => valueIn? 8 ds
  | ds => valueIn? 10 ds

/-- The parts of a host, where a dot may stand behind the last one. -/
def parts (cs : List Char) : List (List Char) :=
  match (Text.partsAt '.' cs).reverse with
  | [] :: part :: rest => (part :: rest).reverse
  | rest => rest.reverse

/-- Whether a host is meant to be numeric: its last part is all digits, or a number. -/
def isMeant (cs : List Char) : Bool :=
  match (parts cs).getLast? with
  | none => false
  | some part => (!part.isEmpty && part.all Text.isDigit) || (number? part).isSome

/-- The one number of a list of numbers, of which each takes one place and the last takes the rest. -/
def combine? : (places : Nat) → List Nat → Option Nat
  | 0, _ => none
  | _, [] => none
  | places + 1, [n] => if n < Nat.pow 256 (places + 1) then some n else none
  | places + 1, n :: ns => do
    let rest ← combine? places ns
    if n < 256 then some (n * Nat.pow 256 places + rest) else none

/-- Reads a numeric host as one number. -/
def ofChars? (cs : List Char) : Option Nat := do
  combine? 4 (← (parts cs).mapM number?)

/-- The host of a number. -/
def render (n : Nat) : String :=
  ".".intercalate ([n / 16777216, n / 65536 % 256, n / 256 % 256, n % 256].map toString)

end Herald.Url.Address4
