import Herald.Text.Ascii

/-!
# Reading quoted text

A text is read in three steps: `content` cuts it off at the closing quote, `pieces` takes the escapes apart, and `joinUnits` puts
pairs of surrogate numbers together. A surrogate without its partner stands for no character, so such a text is well formed but
has no value.
-/

namespace Herald.Json

/-- The content of a text up to its closing quote, escapes untouched, and what follows the quote. Controls may not stand there. -/
def content : List Char → Option (List Char × List Char)
  | [] => none
  | '"' :: rest => some ([], rest)
  | ['\\'] => none
  | '\\' :: c :: rest => (content rest).map fun p => ('\\' :: c :: p.1, p.2)
  | c :: rest => if c.toNat < 0x20 then none else (content rest).map fun p => (c :: p.1, p.2)

/-- A part of a text: a character, or the number of an escape, which may be half of a surrogate pair. -/
inductive Piece
  | plain (c : Char)
  | unit (n : Nat)
  deriving DecidableEq, Repr

/-- The character that a short escape stands for. -/
def shortEscape? : Char → Option Char
  | '"' => some '"'
  | '\\' => some '\\'
  | '/' => some '/'
  | 'b' => some '\x08'
  | 'f' => some '\x0c'
  | 'n' => some '\n'
  | 'r' => some '\r'
  | 't' => some '\t'
  | _ => none

/-- The number of four hexadecimal digits. -/
def unitOf? (a b c d : Char) : Option Nat := do
  let a ← Text.hexValue? a
  let b ← Text.hexValue? b
  let c ← Text.hexValue? c
  let d ← Text.hexValue? d
  return ((a * 16 + b) * 16 + c) * 16 + d

/-- The pieces of a content, if every escape in it is known. -/
def pieces : List Char → Option (List Piece)
  | [] => some []
  | '\\' :: 'u' :: a :: b :: c :: d :: rest => do
    let n ← unitOf? a b c d
    return .unit n :: (← pieces rest)
  | '\\' :: c :: rest => do
    let c ← shortEscape? c
    return .plain c :: (← pieces rest)
  | ['\\'] => none
  | c :: rest => do return .plain c :: (← pieces rest)

/-- Whether a number is the first half of a pair. -/
def isHigh (n : Nat) : Bool :=
  0xD800 ≤ n && n < 0xDC00

/-- Whether a number is the second half of a pair. -/
def isLow (n : Nat) : Bool :=
  0xDC00 ≤ n && n < 0xE000

/-- The characters of some pieces, unless a half stands alone. -/
def joinUnits : List Piece → Option (List Char)
  | [] => some []
  | .plain c :: rest => (joinUnits rest).map (c :: ·)
  | .unit n :: .unit m :: rest =>
    if isHigh n then
      if isLow m then (joinUnits rest).map (Char.ofNat (0x10000 + (n - 0xD800) * 0x400 + (m - 0xDC00)) :: ·) else none
    else if isLow n then none
    else (joinUnits (.unit m :: rest)).map (Char.ofNat n :: ·)
  | .unit n :: rest => if isHigh n || isLow n then none else (joinUnits rest).map (Char.ofNat n :: ·)

/-- Reads a text whose opening quote has been read. The text is `none` when it is well formed without a value. -/
def readText (cs : List Char) : Option (Option String × List Char) := do
  let (body, rest) ← content cs
  let parts ← pieces body
  return ((joinUnits parts).map String.ofList, rest)

end Herald.Json
