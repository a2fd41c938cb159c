import Herald.Text.Ascii
import Herald.Text.Space
import Herald.Time.Instant

/-!
# Instants as text

An instant is written as date, time and zone, with the fewest of 0, 3, 6 and 9 decimals that keep it. The reader accepts what the
writer gives in either form and more: signed years of any length, one-digit numbers, blanks around the parts, three separators of
date and time, and any offset of the zone below a day.
-/

namespace Herald

namespace Instant

/-- A number with at least so many digits. -/
def padded (width n : Nat) : List Char :=
  let digits := Nat.toDigits 10 n
  List.replicate (width - digits.length) '0' ++ digits

/-- A year: four digits, and a sign outside the years that four digits write. -/
def yearChars (year : Int) : List Char :=
  if 0 ≤ year ∧ year ≤ 9999 then padded 4 year.toNat
  else (if year < 0 then '-' else '+') :: padded 4 year.natAbs

/-- The decimals of a second, with the point. -/
def fractionChars (nanos : Nat) : List Char :=
  if nanos = 0 then []
  else if nanos % 1000000 = 0 then '.' :: padded 3 (nanos / 1000000)
  else if nanos % 1000 = 0 then '.' :: padded 6 (nanos / 1000)
  else '.' :: padded 9 nanos

/-- Date and time, without the zone. -/
def dateTimeChars (t : Instant) : List Char :=
  let date := Date.ofDayNumber (t.seconds / 86400)
  let clock := (t.seconds % 86400).toNat
  let second := clock % 60 + t.nanos / 1000000000
  yearChars date.year ++ '-' :: padded 2 date.month ++ '-' :: padded 2 date.day ++ 'T' :: padded 2 (clock / 3600) ++
    ':' :: padded 2 (clock / 60 % 60) ++ ':' :: padded 2 second ++ fractionChars (t.nanos % 1000000000)

/-- The instant as text, the zone written as one letter. -/
def render (t : Instant) : String :=
  String.ofList (t.dateTimeChars ++ ['Z'])

/-- The instant as text, the zone written as an offset. -/
def renderOffset (t : Instant) : String :=
  String.ofList (t.dateTimeChars ++ "+00:00".toList)

/-- Reads a number of at least one digit and at most `width`. -/
def readDigits (width : Nat) (cs : List Char) : Option (Nat × List Char) :=
  match (cs.take width).takeWhile Text.isDigit with
  | [] => none
  | digits => some (Text.natOfDigits digits, cs.drop digits.length)

/-- Reads a number that may have blanks before it. -/
def readNumber (width : Nat) (cs : List Char) : Option (Nat × List Char) :=
  readDigits width (Text.trimLeft cs)

/-- Reads a year: up to four digits, or a sign and any number of them. -/
def readYear (cs : List Char) : Option (Int × List Char) :=
  match Text.trimLeft cs with
  | '-' :: rest => (readDigits rest.length rest).map fun (n, rest) => (-(n : Int), rest)
  | '+' :: rest => (readDigits rest.length rest).map fun (n, rest) => ((n : Int), rest)
  | rest => (readDigits 4 rest).map fun (n, rest) => ((n : Int), rest)

/-- Reads a separator that may have blanks before it. -/
def readMark (mark : Char) (cs : List Char) : Option (List Char) :=
  match Text.trimLeft cs with
  | c :: rest => if c = mark then some rest else none
  | [] => none

/-- Reads the decimals of a second, if there are any. Those beyond the ninth are passed over. -/
def readFraction : List Char → Option (Nat × List Char)
  | '.' :: rest => do
    let digits := (rest.take 9).takeWhile Text.isDigit
    if digits.isEmpty then none
    else return (Text.natOfDigits digits * Nat.pow 10 (9 - digits.length), rest.dropWhile Text.isDigit)
  | rest => some (0, rest)

/-- Whether a character may stand between the hours and the minutes of an offset. -/
def isOffsetMark (c : Char) : Bool :=
  c == ':' || Text.isSpace c

/-- Reads an offset of the zone, in seconds. -/
def readOffset (cs : List Char) : Option (Int × List Char) := do
  let (sign, rest) ← match cs with
    | '+' :: rest => some ((1 : Int), rest)
    | '-' :: rest => some (-1, rest)
    | '−' :: rest => some (-1, rest)
    | _ => none
  match rest with
  | a :: b :: rest =>
    if !(Text.isDigit a && Text.isDigit b) then none
    else match rest.dropWhile isOffsetMark with
      | c :: d :: rest =>
        if !('0' ≤ c && c ≤ '5' && Text.isDigit d) then none
        else
          let hours := Text.natOfDigits [a, b]
          if hours < 24 then some (sign * (hours * 3600 + Text.natOfDigits [c, d] * 60 : Nat), rest) else none
      | _ => none
  | _ => none

/-- Reads the zone: a letter, the name of the common time, or an offset. -/
def readZone (cs : List Char) : Option (Int × List Char) :=
  match Text.trimLeft cs with
  | a :: b :: c :: rest =>
    if Text.lowerChar a = 'u' ∧ Text.lowerChar b = 't' ∧ Text.lowerChar c = 'c' then some (0, rest)
    else if a = 'Z' ∨ a = 'z' then some (0, b :: c :: rest)
    else readOffset (a :: b :: c :: rest)
  | a :: rest => if a = 'Z' ∨ a = 'z' then some (0, rest) else none
  | [] => none

/-- The instant of a date, a time of the day and an offset, if the calendar and the clock have them. A second of 60 is an inserted
one. -/
def assemble (date : Date) (hour minute second nanos : Nat) (offset : Int) : Option Instant :=
  if date.isValid && firstYear ≤ date.year && date.year ≤ lastYear && hour < 24 && minute < 60 && second ≤ 60 then
    let clock : Nat := hour * 3600 + minute * 60 + min second 59
    of? (date.dayNumber * 86400 + clock - offset) (if second = 60 then nanos + 1000000000 else nanos)
  else none

/-- Reads an instant from the whole of a text. -/
def ofText? (text : String) : Option Instant := do
  let (year, rest) ← readYear text.toList
  let rest ← readMark '-' rest
  let (month, rest) ← readNumber 2 rest
  let rest ← readMark '-' rest
  let (day, rest) ← readNumber 2 rest
  let rest ← match rest with
    | 'T' :: rest => some rest
    | 't' :: rest => some rest
    | ' ' :: rest => some rest
    | _ => none
  let (hour, rest) ← readNumber 2 rest
  let rest ← readMark ':' rest
  let (minute, rest) ← readNumber 2 rest
  let rest ← readMark ':' rest
  let (second, rest) ← readNumber 2 rest
  let (nanos, rest) ← readFraction rest
  let (offset, rest) ← readZone rest
  if Text.trimLeft rest = [] then assemble ⟨year, month, day⟩ hour minute second nanos offset else none

end Instant

end Herald
