import Herald.Time.Calendar

/-!
# Instants

Points in time, to the nanosecond and without a zone. Nanoseconds from `10 ^ 9` on tell of a second that is inserted behind another one,
so that it lies between that one and the next. Any second may have one behind it, though a clock inserts seconds at the end of a minute
only (`Instant.OnClock`). Instants are ordered by seconds, then nanoseconds.
-/

namespace Herald

/-- The first and the last year of the calendar in use. -/
def firstYear : Int := -262143

/-- The last year of the calendar in use. -/
def lastYear : Int := 262142

/-- A point in time. -/
structure Instant where
  /-- Seconds since the start of 1970, inserted ones not counted. -/
  seconds : Int
  /-- Nanoseconds since the start of the second, through the one that is inserted behind it. -/
  nanos : Nat
  inYears : (⟨firstYear, 1, 1⟩ : Date).dayNumber * 86400 ≤ seconds ∧
    seconds < ((⟨lastYear, 12, 31⟩ : Date).dayNumber + 1) * 86400 := by decide
  inSecond : nanos < 2000000000 := by decide
  deriving DecidableEq, Repr

namespace Instant

/-- The start of 1970. -/
def epoch : Instant := { seconds := 0, nanos := 0 }

instance : Inhabited Instant := ⟨epoch⟩

/-- The instant of some seconds and nanoseconds, if there is one. -/
def of? (seconds : Int) (nanos : Nat) : Option Instant :=
  if inYears : (⟨firstYear, 1, 1⟩ : Date).dayNumber * 86400 ≤ seconds ∧
      seconds < ((⟨lastYear, 12, 31⟩ : Date).dayNumber + 1) * 86400 then
    if inSecond : nanos < 2000000000 then
      some ⟨seconds, nanos, inYears, inSecond⟩
    else none
  else none

/-- Whether a clock can show the instant: what is inserted is inserted at the end of a minute. -/
def OnClock (t : Instant) : Prop :=
  t.nanos < 1000000000 ∨ t.seconds % 60 = 59

instance (t : Instant) : Decidable t.OnClock :=
  inferInstanceAs (Decidable (t.nanos < 1000000000 ∨ t.seconds % 60 = 59))

/-- Whether one instant is before another. -/
instance : LT Instant where
  lt a b := a.seconds < b.seconds ∨ (a.seconds = b.seconds ∧ a.nanos < b.nanos)

/-- Whether one instant is not after another. -/
instance : LE Instant where
  le a b := a.seconds < b.seconds ∨ (a.seconds = b.seconds ∧ a.nanos ≤ b.nanos)

instance (a b : Instant) : Decidable (a < b) :=
  inferInstanceAs (Decidable (a.seconds < b.seconds ∨ (a.seconds = b.seconds ∧ a.nanos < b.nanos)))

instance (a b : Instant) : Decidable (a ≤ b) :=
  inferInstanceAs (Decidable (a.seconds < b.seconds ∨ (a.seconds = b.seconds ∧ a.nanos ≤ b.nanos)))

/-- The later of two instants. -/
def later (a b : Instant) : Instant :=
  if a < b then b else a

end Instant

end Herald
