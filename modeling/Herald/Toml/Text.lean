import Herald.Text.Ascii

/-!
# Texts and keys of a settings file

Texts stand between double quotes, with escapes, or between single quotes, as they are. Three quotes in a row open a text of several
lines, whose first line break does not count; it may hold one or two quotes in a row, and end in up to two of its own before the three
that close it.
-/

namespace Herald.Toml

/-- Whether a character is a blank within a line. -/
def isBlank (c : Char) : Bool :=
  c == ' ' || c == '\t'

/-- What follows the blanks. -/
def skipBlanks (cs : List Char) : List Char :=
  cs.dropWhile isBlank

/-- Whether a character may stand in a line as it is. -/
def isPlain (c : Char) : Bool :=
  c == '\t' || (0x20 ≤ c.toNat && c.toNat != 0x7F)

/-- Splits off a line break. -/
def lineBreak? : List Char → Option (List Char)
  | '\n' :: rest => some rest
  | '\r' :: '\n' :: rest => some rest
  | _ => none

/-- What follows the blanks and line breaks. -/
def skipLines : List Char → List Char
  | '\n' :: rest => skipLines rest
  | '\r' :: '\n' :: rest => skipLines rest
  | c :: rest => if isBlank c then skipLines rest else c :: rest
  | [] => []

/-- The character of a number, unless the number is half of a surrogate pair or too large. -/
def charOf? (n : Nat) : Option Char :=
  if n < 0xD800 ∨ (0xDFFF < n ∧ n < 0x110000) then some (Char.ofNat n) else none

/-- Reads so many hexadecimal digits as the number of a character. -/
def readHex (count : Nat) (cs : List Char) : Option (Char × List Char) := do
  let digits ← (cs.take count).mapM Text.hexValue?
  if digits.length = count then
    let c ← charOf? (digits.foldl (fun n d => n * 16 + d) 0)
    return (c, cs.drop count)
  else none

/-- Reads what follows the backslash of an escape. -/
def readEscape : List Char → Option (Char × List Char)
  | 'b' :: rest => some ('\x08', rest)
  | 't' :: rest => some ('\t', rest)
  | 'n' :: rest => some ('\n', rest)
  | 'f' :: rest => some ('\x0c', rest)
  | 'r' :: rest => some ('\r', rest)
  | '"' :: rest => some ('"', rest)
  | '\\' :: rest => some ('\\', rest)
  | 'u' :: rest => readHex 4 rest
  | 'U' :: rest => readHex 8 rest
  | _ => none

/-- Reads a text between double quotes, after the first of them. -/
def readBasic : Nat → List Char → Option (List Char × List Char)
  | 0, _ => none
  | _, [] => none
  | _, '"' :: rest => some ([], rest)
  | fuel + 1, '\\' :: rest => do
    let (c, rest) ← readEscape rest
    let (s, rest) ← readBasic fuel rest
    return (c :: s, rest)
  | fuel + 1, c :: rest =>
    if isPlain c then (readBasic fuel rest).map fun (s, rest) => (c :: s, rest) else none

/-- Reads a text between single quotes, after the first of them. -/
def readLiteral : List Char → Option (List Char × List Char)
  | [] => none
  | '\'' :: rest => some ([], rest)
  | c :: rest => if isPlain c then (readLiteral rest).map fun (s, rest) => (c :: s, rest) else none

/-- The line break at the start of a text of several lines does not count. -/
def skipFirstBreak (cs : List Char) : List Char :=
  (lineBreak? cs).getD cs

/-- Reads a text of several lines up to the quotes that close it. `escapes` says whether it holds escapes. -/
def readLines (quote : Char) (escapes : Bool) : Nat → List Char → Option (List Char × List Char)
  | 0, _ => none
  | _, [] => none
  | fuel + 1, c :: rest =>
    if c = quote then
      let count := ((c :: rest).takeWhile (· == quote)).length
      if 6 ≤ count then none
      else if 3 ≤ count then some (List.replicate (count - 3) quote, (c :: rest).drop count)
      else (readLines quote escapes fuel ((c :: rest).drop count)).map fun (s, rest) => (List.replicate count quote ++ s, rest)
    else if escapes && c == '\\' then
      match lineBreak? (skipBlanks rest) with
      | some rest => readLines quote escapes fuel (skipLines rest)
      | none => do
        let (e, rest) ← readEscape rest
        let (s, rest) ← readLines quote escapes fuel rest
        return (e :: s, rest)
    else
      match lineBreak? (c :: rest) with
      | some rest => (readLines quote escapes fuel rest).map fun (s, rest) => ('\n' :: s, rest)
      | none =>
        if isPlain c then (readLines quote escapes fuel rest).map fun (s, rest) => (c :: s, rest) else none

/-- Reads a text of any of the four forms. -/
def readText : List Char → Option (String × List Char)
  | '"' :: '"' :: '"' :: rest => (readLines '"' true rest.length (skipFirstBreak rest)).map fun (s, rest) => (String.ofList s, rest)
  | '\'' :: '\'' :: '\'' :: rest =>
    (readLines '\'' false rest.length (skipFirstBreak rest)).map fun (s, rest) => (String.ofList s, rest)
  | '"' :: rest => (readBasic rest.length rest).map fun (s, rest) => (String.ofList s, rest)
  | '\'' :: rest => (readLiteral rest).map fun (s, rest) => (String.ofList s, rest)
  | _ => none

/-- Whether a character may stand in a key without quotes. -/
def isKeyChar (c : Char) : Bool :=
  Text.isAlphanumeric c || c == '-' || c == '_'

/-- Reads one key. -/
def readKey : List Char → Option (String × List Char)
  | '"' :: rest => (readBasic rest.length rest).map fun (s, rest) => (String.ofList s, rest)
  | '\'' :: rest => (readLiteral rest).map fun (s, rest) => (String.ofList s, rest)
  | cs =>
    match cs.takeWhile isKeyChar with
    | [] => none
    | key => some (String.ofList key, cs.dropWhile isKeyChar)

/-- Reads keys with points between them, at least one. -/
def readKeys : Nat → List Char → Option (List String × List Char)
  | 0, _ => none
  | fuel + 1, cs => do
    let (key, rest) ← readKey (skipBlanks cs)
    match skipBlanks rest with
    | '.' :: rest =>
      let (keys, rest) ← readKeys fuel rest
      return (key :: keys, rest)
    | rest => return ([key], rest)

end Herald.Toml
