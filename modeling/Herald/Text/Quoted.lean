import Herald.Text.Ascii
import Herald.Text.Unprintable

/-!
# Quoted text

How an error message shows a text that it cites: between double quotes, with a backslash before a quote or a backslash, with a
short form for four controls, and with the number of every other character that does not stand alone in print.
-/

namespace Herald.Text

/-- The digits of a number in base 16, small letters, at least one. -/
def hexDigits (n : Nat) : List Char :=
  Nat.toDigits 16 n

/-- How one character of a quoted text is written. -/
def quoteChar (c : Char) : List Char :=
  match c with
  | '\x00' => ['\\', '0']
  | '\t' => ['\\', 't']
  | '\r' => ['\\', 'r']
  | '\n' => ['\\', 'n']
  | '\\' => ['\\', '\\']
  | '"' => ['\\', '"']
  | c => if isPrintable c then [c] else ['\\', 'u', '\x7b'] ++ hexDigits c.toNat ++ ['\x7d']

/-- A text between quotes. -/
def quoted (s : String) : String :=
  String.ofList ('"' :: s.toList.flatMap quoteChar ++ ['"'])

/-- A single character between single quotes; the double quote needs no backslash there, the single one does. -/
def quotedChar (c : Char) : String :=
  let body := if c = '\'' then ['\\', '\''] else if c = '"' then ['"'] else quoteChar c
  String.ofList ('\'' :: body ++ ['\''])

end Herald.Text
