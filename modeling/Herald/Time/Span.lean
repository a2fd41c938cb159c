/-!
# Spans of time

A span is a number of nanoseconds. It is shown in the largest of four units in which it is at least one, with as many decimals as it
needs.
-/

namespace Herald

/-- A span of time. -/
structure Span where
  nanos : Nat
  deriving DecidableEq, Repr, Inhabited

namespace Span

/-- A span of whole seconds. -/
def ofSeconds (n : Nat) : Span := ⟨n * 1000000000⟩

/-- A span of whole milliseconds. -/
def ofMillis (n : Nat) : Span := ⟨n * 1000000⟩

/-- The decimals of `rest / 10 ^ places`, without the zeros at their end. -/
def decimals (places rest : Nat) : List Char :=
  let digits := Nat.toDigits 10 rest
  ((List.replicate (places - digits.length) '0' ++ digits).reverse.dropWhile (· == '0')).reverse

/-- The span in a unit of `10 ^ places` nanoseconds. -/
def inUnit (places : Nat) (unit : String) (s : Span) : String :=
  let size := Nat.pow 10 places
  match decimals places (s.nanos % size) with
  | [] => toString (s.nanos / size) ++ unit
  | ds => toString (s.nanos / size) ++ "." ++ String.ofList ds ++ unit

/-- The span in words. -/
def display (s : Span) : String :=
  if 1000000000 ≤ s.nanos then s.inUnit 9 "s"
  else if 1000000 ≤ s.nanos then s.inUnit 6 "ms"
  else if 1000 ≤ s.nanos then s.inUnit 3 "µs"
  else toString s.nanos ++ "ns"

end Span

end Herald
