import Herald.Number.Word
import Herald.Time.Calendar
import Herald.Toml.Text
import Herald.Value

/-!
# Numbers and moments of a settings file

Whole numbers have a sign and fit 64 binary digits, and may be written in base 16, 8 or 2. Underscores stand between digits. A number
with a fraction is read to the nearest binary number. A date or a time of the day is kept as it is written.
-/

namespace Herald.Toml

/-- Reads digits with single underscores between them. -/
def readDigits (isDigit : Char → Bool) : List Char → Option (List Char × List Char)
  | [] => none
  | c :: '_' :: rest => if isDigit c then (readDigits isDigit rest).map fun (ds, rest) => (c :: ds, rest) else none
  | c :: rest =>
    if !isDigit c then none
    else if rest.head?.any isDigit then (readDigits isDigit rest).map fun (ds, rest) => (c :: ds, rest)
    else some ([c], rest)

/-- Whether a character is a digit of a base. -/
def isDigitOf (base : Nat) (c : Char) : Bool :=
  (Text.hexValue? c).any fun d => d < base

/-- The number of some digits of a base. -/
def numberOf (base : Nat) (ds : List Char) : Nat :=
  ds.foldl (fun n d => n * base + (Text.hexValue? d).getD 0) 0

/-- A whole number that fits. -/
def whole? (n : Int) : Option Value :=
  if Word.fitsSigned n then some (.signed n) else none

/-- Reads a sign. -/
def readSign : List Char → Bool × List Char
  | '+' :: rest => (false, rest)
  | '-' :: rest => (true, rest)
  | cs => (false, cs)

/-- Reads a whole number without its sign. A zero stands alone. -/
def readWhole : List Char → Option (List Char × List Char)
  | '0' :: rest => some (['0'], rest)
  | cs => readDigits Text.isDigit cs

/-- Reads an exponent. -/
def readExponent : List Char → Option (Int × List Char)
  | c :: rest =>
    if c = 'e' ∨ c = 'E' then
      let (negative, rest) := readSign rest
      (readDigits Text.isDigit rest).map fun (ds, rest) =>
        ((if negative then -(Text.natOfDigits ds : Int) else (Text.natOfDigits ds : Int)), rest)
    else none
  | [] => none

/-- A binary number, unless it is too large. One that is too small is taken for the infinite negative number. -/
def inRange? (x : Binary64) : Option Value :=
  if x = .infinite false then none else some (.float x)

/-- Reads what makes a number one with a fraction: decimals, an exponent, or both. -/
def readFraction (negative : Bool) (whole : List Char) : List Char → Option (Value × List Char)
  | '.' :: rest => do
    let (ds, rest) ← readDigits Text.isDigit rest
    let (e, rest) ← match rest with
      | c :: _ => if c = 'e' ∨ c = 'E' then readExponent rest else some (0, rest)
      | [] => some (0, [])
    return (← inRange? (.ofDecimal negative (Text.natOfDigits (whole ++ ds)) (e - ds.length)), rest)
  | cs => do
    let (e, rest) ← readExponent cs
    return (← inRange? (.ofDecimal negative (Text.natOfDigits whole) e), rest)

/-- Reads the words for numbers that are not finite. -/
def readSpecial (negative : Bool) : List Char → Option (Value × List Char)
  | 'i' :: 'n' :: 'f' :: rest => some (.float (.infinite negative), rest)
  | 'n' :: 'a' :: 'n' :: rest => some (.float .notANumber, rest)
  | _ => none

/-- Reads a number of another base. -/
def readBase (base : Nat) (cs : List Char) : Option (Value × List Char) := do
  let (ds, rest) ← readDigits (isDigitOf base) cs
  return (← whole? (numberOf base ds), rest)

/-- Reads a number. -/
def readNumber : List Char → Option (Value × List Char)
  | '0' :: 'x' :: rest => readBase 16 rest
  | '0' :: 'o' :: rest => readBase 8 rest
  | '0' :: 'b' :: rest => readBase 2 rest
  | cs => do
    let (negative, cs) := readSign cs
    match readSpecial negative cs with
    | some found => return found
    | none =>
      let (ds, rest) ← readWhole cs
      let isFraction := match rest with
        | c :: _ => c == '.' || c == 'e' || c == 'E'
        | [] => false
      if isFraction then readFraction negative ds rest
      else
        let n := Text.natOfDigits ds
        return (← whole? (if negative then -(n : Int) else n), rest)

/-- Reads exactly so many digits. -/
def readFixed (count : Nat) (cs : List Char) : Option (Nat × List Char) :=
  let ds := cs.take count
  if ds.length = count && ds.all Text.isDigit then some (Text.natOfDigits ds, cs.drop count) else none

/-- Reads one character. -/
def readChar (c : Char) : List Char → Option (List Char)
  | d :: rest => if c = d then some rest else none
  | [] => none

/-- Reads a date. -/
def readDate (cs : List Char) : Option (List Char) := do
  let (year, rest) ← readFixed 4 cs
  let (month, rest) ← readFixed 2 (← readChar '-' rest)
  let (day, rest) ← readFixed 2 (← readChar '-' rest)
  if (⟨year, month, day⟩ : Date).isValid then some rest else none

/-- Reads a time of the day. -/
def readTime (cs : List Char) : Option (List Char) := do
  let (hour, rest) ← readFixed 2 cs
  let (minute, rest) ← readFixed 2 (← readChar ':' rest)
  let (second, rest) ← readFixed 2 (← readChar ':' rest)
  if hour < 24 && minute < 60 && second ≤ 60 then
    match rest with
    | '.' :: decimals => if decimals.head?.any Text.isDigit then some (decimals.dropWhile Text.isDigit) else none
    | rest => some rest
  else none

/-- Reads the offset of a zone, if there is one. -/
def readZone (cs : List Char) : Option (List Char) :=
  match cs with
  | 'Z' :: rest => some rest
  | 'z' :: rest => some rest
  | c :: rest =>
    if c = '+' ∨ c = '-' then do
      let (hour, rest) ← readFixed 2 rest
      let (minute, rest) ← readFixed 2 (← readChar ':' rest)
      if hour < 24 && minute < 60 then some rest else none
    else some cs
  | [] => some []

/-- Reads a date, a time, or both with or without a zone: what is left after it. -/
def readMoment (cs : List Char) : Option (List Char) :=
  match readDate cs with
  | none => readTime cs
  | some rest =>
    match rest with
    | c :: after =>
      if c = 'T' ∨ c = 't' ∨ c = ' ' then
        match readTime after with
        | some rest => readZone rest
        | none => some rest
      else some rest
    | [] => some []

/-- The key under which a moment is handed on. -/
def momentKey : String := "$__toml_private_datetime"

/-- Reads a moment or a number. -/
def readScalar (cs : List Char) : Option (Value × List Char) :=
  match readMoment cs with
  | some rest => some (.object [(momentKey, .text (String.ofList (cs.take (cs.length - rest.length))))], rest)
  | none => readNumber cs

end Herald.Toml
