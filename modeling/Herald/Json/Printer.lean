import Herald.Number.Shortest
import Herald.Text.Ascii
import Herald.Value

/-!
# Writing values as text

Two layouts: the compact one, without blanks, and the indented one, with two blanks a level. Fields are written in the order in
which the object has them.
-/

namespace Herald.Json

/-- Numbers with a fraction keep their point, and have an exponent below `10 ^ -5` and from `10 ^ 16` on. -/
def floatLayout : FloatLayout :=
  ⟨fun e => -5 ≤ e && e < 16, true⟩

/-- How one character of a text is written. -/
def escapeChar (c : Char) : List Char :=
  match c with
  | '"' => ['\\', '"']
  | '\\' => ['\\', '\\']
  | '\x08' => ['\\', 'b']
  | '\x0c' => ['\\', 'f']
  | '\n' => ['\\', 'n']
  | '\r' => ['\\', 'r']
  | '\t' => ['\\', 't']
  | c =>
    if c.toNat < 0x20 then ['\\', 'u', '0', '0', Text.hexDigit (c.toNat / 16), Text.hexDigit (c.toNat % 16)] else [c]

/-- A text between quotes. -/
def textChars (s : String) : List Char :=
  '"' :: s.toList.flatMap escapeChar ++ ['"']

/-- A value that holds no other; lists and objects are written around their parts. -/
def scalarChars : Value → List Char
  | .null => "null".toList
  | .bool b => (if b then "true" else "false").toList
  | .unsigned n => Nat.toDigits 10 n
  | .signed n => (if n < 0 then ['-'] else []) ++ Nat.toDigits 10 n.natAbs
  | .float x => (x.render floatLayout).toList
  | .char c => textChars (String.singleton c)
  | .text s => textChars s
  | .list _ => []
  | .object _ => []

mutual

/-- The compact text of a value. -/
def compactChars : Value → List Char
  | .list items => '[' :: compactItems items
  | .object fields => '\x7b' :: compactFields fields
  | v => scalarChars v

/-- The compact text of the items of a list, with the closing bracket. -/
def compactItems : List Value → List Char
  | [] => [']']
  | [v] => compactChars v ++ [']']
  | v :: rest => compactChars v ++ ',' :: compactItems rest

/-- The compact text of the fields of an object, with the closing brace. -/
def compactFields : List (String × Value) → List Char
  | [] => ['\x7d']
  | [(k, v)] => textChars k ++ ':' :: compactChars v ++ ['\x7d']
  | (k, v) :: rest => textChars k ++ ':' :: compactChars v ++ ',' :: compactFields rest

end

/-- A new line with its indentation. -/
def newline (level : Nat) : List Char :=
  '\n' :: List.replicate (2 * level) ' '

mutual

/-- The indented text of a value that stands at a level. -/
def indentedChars (level : Nat) : Value → List Char
  | .list [] => ['[', ']']
  | .list items => '[' :: newline (level + 1) ++ indentedItems level items
  | .object [] => ['\x7b', '\x7d']
  | .object fields => '\x7b' :: newline (level + 1) ++ indentedFields level fields
  | v => scalarChars v

/-- The indented text of the items of a list, with the closing bracket. -/
def indentedItems (level : Nat) : List Value → List Char
  | [] => [']']
  | [v] => indentedChars (level + 1) v ++ newline level ++ [']']
  | v :: rest => indentedChars (level + 1) v ++ ',' :: newline (level + 1) ++ indentedItems level rest

/-- The indented text of the fields of an object, with the closing brace. -/
def indentedFields (level : Nat) : List (String × Value) → List Char
  | [] => ['\x7d']
  | [(k, v)] => textChars k ++ ':' :: ' ' :: indentedChars (level + 1) v ++ newline level ++ ['\x7d']
  | (k, v) :: rest =>
    textChars k ++ ':' :: ' ' :: indentedChars (level + 1) v ++ ',' :: newline (level + 1) ++ indentedFields level rest

end

end Herald.Json

namespace Herald.Value

/-- The compact text. -/
def compact (v : Value) : String :=
  String.ofList (Json.compactChars v)

/-- The text with one field or item a line. -/
def indented (v : Value) : String :=
  String.ofList (Json.indentedChars 0 v)

end Herald.Value
