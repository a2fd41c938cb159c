/-!
# Dates

Dates of the Gregorian calendar, carried back before its introduction and with a year zero, and their numbers counted from the first
of January 1970. Years are counted from March, so that the day that only some years have is the last of a year, of a group of four
years, of a century and of a cycle of four centuries: each of these but the last of its kind has the same number of days.
-/

namespace Herald

/-- A date. -/
structure Date where
  year : Int
  month : Nat
  day : Nat
  deriving DecidableEq, Repr, Inhabited

namespace Date

/-- Whether a year has the 29th of February. -/
def isLeap (year : Int) : Bool :=
  year % 4 == 0 && (year % 100 != 0 || year % 400 == 0)

/-- How many days a month has. -/
def daysInMonth (year : Int) (month : Nat) : Nat :=
  if month = 2 then (if isLeap year then 29 else 28)
  else if month = 4 ∨ month = 6 ∨ month = 9 ∨ month = 11 then 30
  else 31

/-- Whether the calendar has the date. -/
def isValid (d : Date) : Bool :=
  1 ≤ d.month && d.month ≤ 12 && 1 ≤ d.day && d.day ≤ daysInMonth d.year d.month

/-- How many days of a year that starts in March are before a month, March being month 0. -/
def daysBefore (month : Nat) : Nat :=
  (153 * month + 2) / 5

/-- The number of a date. -/
def dayNumber (d : Date) : Int :=
  let year := if d.month ≤ 2 then d.year - 1 else d.year
  let yearOfCycle := (year % 400).toNat
  let dayOfYear := daysBefore ((d.month + 9) % 12) + d.day - 1
  let dayOfCycle := yearOfCycle * 365 + yearOfCycle / 4 - yearOfCycle / 100 + dayOfYear
  year / 400 * 146097 + dayOfCycle - 719468

/-- The date of a number. -/
def ofDayNumber (n : Int) : Date :=
  let cycle := (n + 719468) / 146097
  let dayOfCycle := ((n + 719468) % 146097).toNat
  let century := min 3 (dayOfCycle / 36524)
  let dayOfCentury := dayOfCycle - century * 36524
  let group := dayOfCentury / 1461
  let dayOfGroup := dayOfCentury % 1461
  let yearOfGroup := min 3 (dayOfGroup / 365)
  let dayOfYear := dayOfGroup - yearOfGroup * 365
  let month := (5 * dayOfYear + 2) / 153
  let year := cycle * 400 + (century * 100 + group * 4 + yearOfGroup : Nat)
  let day := dayOfYear - daysBefore month + 1
  if month < 10 then ⟨year, month + 3, day⟩ else ⟨year + 1, month - 9, day⟩

end Date

end Herald
