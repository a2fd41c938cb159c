import Herald.Text.Ascii

/-!
# Escapes by percent signs

A character that may not stand in a text is written as its bytes, each behind a percent sign with two digits in base 16. A percent sign
without two digits behind it stands for itself.
-/

namespace Herald.Text.Percent

/-- The escape of a byte. -/
def escapeByte (b : UInt8) : List Char :=
  ['%', (hexDigit (b.toNat / 16)).toUpper, (hexDigit (b.toNat % 16)).toUpper]

/-- The bytes of a character. -/
def bytesOf (c : Char) : List UInt8 :=
  (String.singleton c).toUTF8.toList

/-- The text with every character escaped that is not kept. -/
def escape (isKept : Char → Bool) (cs : List Char) : List Char :=
  cs.flatMap fun c => if isKept c then [c] else (bytesOf c).flatMap escapeByte

/-- The bytes that a text with escapes stands for. -/
def bytes : List Char → List UInt8
  | '%' :: a :: b :: cs =>
    match hexValue? a, hexValue? b with
    | some x, some y => UInt8.ofNat (16 * x + y) :: bytes cs
    | _, _ => bytesOf '%' ++ bytes (a :: b :: cs)
  | c :: cs => bytesOf c ++ bytes cs
  | [] => []

/-- The text that a text with escapes stands for, unless its bytes are none of a text. -/
def unescape? (cs : List Char) : Option (List Char) :=
  (String.fromUTF8? ⟨(bytes cs).toArray⟩).map (·.toList)

end Herald.Text.Percent
