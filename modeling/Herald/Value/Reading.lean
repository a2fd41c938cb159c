import Herald.Value.Fault

/-!
# Reading values as types

A reading is a value of the type or the first fault. Records are read from an object, field by field in the order of the object,
or from a list with the fields in their declared order. A single character in a field or a list is read, and cited, as a text.
-/

namespace Herald

/-- What comes of reading a value: the thing read, or a fault. -/
abbrev Reading (α : Type) := Except Fault α

namespace Reading

/-- A fault at the place that is being read. -/
def fault {α : Type} (cause : Cause) : Reading α :=
  .error ⟨cause, []⟩

/-- Puts a key in front of the path of a fault. -/
def under {α : Type} (key : String) : Reading α → Reading α
  | .ok a => .ok a
  | .error f => .error { f with path := key :: f.path }

end Reading

namespace Value

/-- Reads a text. -/
def asText : Value → Reading String
  | .text s => .ok s
  | v => .error ⟨.wrongType v "a string", []⟩

/-- Reads a truth value. -/
def asBool : Value → Reading Bool
  | .bool b => .ok b
  | v => .error ⟨.wrongType v "a boolean", []⟩

/-- Reads a whole number below `2 ^ 64`. -/
def asNat (expected : String) : Value → Reading Nat
  | .unsigned n => .ok n
  | .signed n => if 0 ≤ n then .ok n.toNat else .error ⟨.wrongValue (.signed n) expected, []⟩
  | v => .error ⟨.wrongType v expected, []⟩

/-- Reads the path of a file. -/
def asPath : Value → Reading String
  | .text s => .ok s
  | v => .error ⟨.wrongType v "path string", []⟩

/-- Reads the fields of an object. -/
def asFields : Value → Reading (List (String × Value))
  | .object fields => .ok fields
  | v => .error ⟨.wrongType v "a map", []⟩

/-- Reads every item of a list, from the given position on. -/
def readItems {α : Type} (read : Value → Reading α) (position : Nat) : List Value → Reading (List α)
  | [] => .ok []
  | item :: rest => do
    let a ← Reading.under (toString position) (read item.spelled)
    return a :: (← readItems read (position + 1) rest)

/-- Reads a list. -/
def asList {α : Type} (read : Value → Reading α) : Value → Reading (List α)
  | .list items => readItems read 0 items
  | v => .error ⟨.wrongType v "a sequence", []⟩

/-- Reads a value that may be absent. -/
def asOption {α : Type} (read : Value → Reading α) : Value → Reading (Option α)
  | .null => .ok none
  | v => (read v).map some

end Value

/-- How a record is read. `set` reads one field into what was read so far. -/
structure RecordReader (σ : Type) where
  /-- The name of the record in a fault. -/
  name : String
  /-- The fields in their declared order. -/
  fields : List String
  /-- The fields that a list may leave out at its end. -/
  optional : List String
  /-- Whether an object may hold fields of other names. -/
  isOpen : Bool
  set : σ → String → Value → Reading σ

namespace RecordReader

variable {σ : Type}

/-- The name of the record and how many fields it has. -/
def shape (r : RecordReader σ) : String :=
  let count := r.fields.length
  "struct " ++ r.name ++ " with " ++ toString count ++ (if count = 1 then " element" else " elements")

/-- Reads one field of an object. -/
def readField (r : RecordReader σ) (state : σ) (field : String × Value) : Reading σ :=
  if r.fields.contains field.1 then Reading.under field.1 (r.set state field.1 field.2.spelled)
  else if r.isOpen then .ok state
  else .error ⟨.unknownField field.1 r.fields, [field.1]⟩

/-- Reads the fields of a list, each at its position. -/
def readPositions (r : RecordReader σ) (state : σ) (position : Nat) : List String → List Value → Reading σ
  | [], _ => .ok state
  | field :: names, [] =>
    if r.optional.contains field then r.readPositions state (position + 1) names []
    else .error ⟨.wrongLength position r.shape, []⟩
  | field :: names, value :: rest => do
    let state ← Reading.under (toString position) (r.set state field value.spelled)
    r.readPositions state (position + 1) names rest

/-- Reads a record into a state that starts without its fields. -/
def read (r : RecordReader σ) (source : Source) (start : σ) : Value → Reading σ
  | .object fields => fields.foldlM r.readField start
  | .list items => do
    let state ← r.readPositions start 0 r.fields items
    if source = .document ∧ r.fields.length < items.length then
      .error ⟨.wrongLength items.length "fewer elements in array", []⟩
    else return state
  | v => .error ⟨.wrongType v ("struct " ++ r.name), []⟩

end RecordReader

end Herald
