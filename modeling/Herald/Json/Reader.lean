import Herald.Json.Escape
import Herald.Json.Number

/-!
# Reading values from text

A text is first read as a draft, which keeps the fields of an object as they stand, repeated ones included, and holds a place for
what is well formed without a value: a number out of range, a text with half a surrogate pair. `Draft.toValue?` then makes the
value, with the limits that a value has. A reader that skips parts of a document works on the draft and never meets those limits
in the parts it skips.
-/

namespace Herald.Json

/-- A well-formed document. -/
inductive Draft
  | scalar (value : Option Value)
  | list (items : List Draft)
  | object (fields : List (Option String × Draft))
  deriving Inhabited

/-- Whether a character is a blank between the parts of a document. -/
def isBlank (c : Char) : Bool :=
  c == ' ' || c == '\n' || c == '\r' || c == '\t'

/-- What follows the blanks. -/
def skipBlanks (cs : List Char) : List Char :=
  cs.dropWhile isBlank

/-- Reads a literal word, a text or a number. -/
def readScalar : List Char → Option (Draft × List Char)
  | 'n' :: 'u' :: 'l' :: 'l' :: rest => some (.scalar (some .null), rest)
  | 't' :: 'r' :: 'u' :: 'e' :: rest => some (.scalar (some (.bool true)), rest)
  | 'f' :: 'a' :: 'l' :: 's' :: 'e' :: rest => some (.scalar (some (.bool false)), rest)
  | '"' :: rest => (readText rest).map fun p => (.scalar (p.1.map .text), p.2)
  | cs => (readNumberText cs).map fun p => (.scalar p.1.value?, p.2)

mutual

/-- Reads a value that may have blanks before it. -/
def readDraft : Nat → List Char → Option (Draft × List Char)
  | 0, _ => none
  | fuel + 1, cs =>
    match skipBlanks cs with
    | '[' :: rest =>
      match skipBlanks rest with
      | ']' :: rest => some (.list [], rest)
      | rest => (readItems fuel rest).map fun p => (.list p.1, p.2)
    | '\x7b' :: rest =>
      match skipBlanks rest with
      | '\x7d' :: rest => some (.object [], rest)
      | rest => (readFields fuel rest).map fun p => (.object p.1, p.2)
    | cs => readScalar cs

/-- Reads the items of a list up to its closing bracket, at least one. -/
def readItems : Nat → List Char → Option (List Draft × List Char)
  | 0, _ => none
  | fuel + 1, cs => do
    let (item, rest) ← readDraft fuel cs
    match skipBlanks rest with
    | ']' :: rest => return ([item], rest)
    | ',' :: rest =>
      let (items, rest) ← readItems fuel rest
      return (item :: items, rest)
    | _ => none

/-- Reads the fields of an object up to its closing brace, at least one. -/
def readFields : Nat → List Char → Option (List (Option String × Draft) × List Char)
  | 0, _ => none
  | fuel + 1, cs =>
    match skipBlanks cs with
    | '"' :: rest => do
      let (key, rest) ← readText rest
      match skipBlanks rest with
      | ':' :: rest =>
        let (value, rest) ← readDraft fuel rest
        match skipBlanks rest with
        | '\x7d' :: rest => return ([(key, value)], rest)
        | ',' :: rest =>
          let (fields, rest) ← readFields fuel rest
          return ((key, value) :: fields, rest)
        | _ => none
      | _ => none
    | _ => none

end

/-- The draft of a whole text. Every step of the reader either takes a character or goes from a list or an object to its parts, so
twice the length is enough. -/
def Draft.ofText? (text : String) : Option Draft :=
  let cs := text.toList
  match readDraft (2 * cs.length + 2) cs with
  | some (draft, rest) => if (skipBlanks rest).isEmpty then some draft else none
  | none => none

mutual

/-- The value of a draft that nests at most `depth` lists and objects. Of two fields with one name the later counts. -/
def Draft.toValue? (depth : Nat) : Draft → Option Value
  | .scalar value => value
  | .list items =>
    match depth with
    | 0 => none
    | depth + 1 => (toItems? depth items).map .list
  | .object fields =>
    match depth with
    | 0 => none
    | depth + 1 => (toFields? depth fields).map .ofFields

/-- The values of some drafts. -/
def toItems? (depth : Nat) : List Draft → Option (List Value)
  | [] => some []
  | item :: rest => do return (← item.toValue? depth) :: (← toItems? depth rest)

/-- The named values of some drafts. -/
def toFields? (depth : Nat) : List (Option String × Draft) → Option (List (String × Value))
  | [] => some []
  | (key, value) :: rest => do return (← key, ← value.toValue? depth) :: (← toFields? depth rest)

end

/-- How many lists and objects may be nested in one another. -/
def maxDepth : Nat := 127

end Herald.Json

namespace Herald.Value

/-- The value that a text stands for. -/
def ofJson? (text : String) : Option Value := do
  (← Json.Draft.ofText? text).toValue? Json.maxDepth

end Herald.Value
