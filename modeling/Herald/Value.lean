import Herald.Keyed
import Herald.Number.Binary64

/-!
# Values

What a text in one of the data formats holds, before it is read as something: the payload of a message, a service call, a
settings file, the value of an environment variable. A whole number says whether its source gives it a sign, since a source that
always does is cited so in an error. The fields of an object stand in rising key order wherever a value is read; a value that is
only written may have them in any order.
-/

namespace Herald

/-- A value of a data format. -/
inductive Value
  | null
  | bool (b : Bool)
  | unsigned (n : Nat)
  | signed (n : Int)
  | float (x : Binary64)
  | char (c : Char)
  | text (s : String)
  | list (items : List Value)
  | object (fields : List (String × Value))
  deriving Repr, Inhabited

namespace Value

/-- An object with its fields put into order. -/
def ofFields (fields : List (String × Value)) : Value :=
  .object (Keyed.ofList fields)

/-- A list of texts. -/
def ofTexts (texts : List String) : Value :=
  .list (texts.map .text)

/-- A text, or null. -/
def ofText? : Option String → Value
  | none => .null
  | some s => .text s

/-- A whole number without a sign, or null. -/
def ofNat? : Option Nat → Value
  | none => .null
  | some n => .unsigned n

/-- The value with a single character taken for a text. -/
def spelled : Value → Value
  | .char c => .text (String.singleton c)
  | v => v

/-- The value under a key of an object. -/
def field? (key : String) : Value → Option Value
  | .object fields => Keyed.get? key fields
  | _ => none

end Value

end Herald
