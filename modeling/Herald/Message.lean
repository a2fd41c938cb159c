import Herald.Feature

/-!
# Messages

What one send delivers. Every field may be absent, and an absent field differs from an empty one. The features that a message needs
are the fields it has.
-/

namespace Herald

/-- The content of a send. -/
structure Message where
  message : Option String := none
  title : Option String := none
  recipients : Option (List String) := none
  data : Option (Keyed Value) := none
  deriving Repr, Inhabited

namespace Message

/-- The features a target needs to understand every field present. -/
def required (m : Message) : FeatureSet :=
  ⟨m.message.isSome, m.title.isSome, m.recipients.isSome, m.data.isSome⟩

/-- Whether no field is present. -/
def isEmpty (m : Message) : Bool :=
  m.required.isEmpty

/-- The fields present, in the order of their declaration. -/
def fields (m : Message) : List (String × Value) :=
  (m.message.map fun s => ("message", .text s)).toList ++
  (m.title.map fun s => ("title", .text s)).toList ++
  (m.recipients.map fun r => ("recipients", .ofTexts r)).toList ++
  (m.data.map fun d => ("data", .object d)).toList

/-- The message as a value, with its fields in key order. -/
def toValue (m : Message) : Value :=
  .ofFields m.fields

/-- The message as text, with its fields in the order of their declaration. -/
def toJson (m : Message) : String :=
  (Value.object m.fields).compact

/-- How a message is read. -/
def reader : RecordReader Message where
  name := "Message"
  fields := ["message", "title", "recipients", "data"]
  optional := []
  isOpen := true
  set m field v :=
    match field with
    | "message" => do return { m with message := ← v.asOption Value.asText }
    | "title" => do return { m with title := ← v.asOption Value.asText }
    | "recipients" => do return { m with recipients := ← v.asOption fun v => v.asList Value.asText }
    | "data" => do return { m with data := ← v.asOption Value.asFields }
    | _ => .ok m

/-- Reads a message. Fields of other names are passed over. -/
def ofValue (v : Value) : Reading Message :=
  reader.read .document {} v

/-- The recipients, if there are any. -/
def recipientList (m : Message) : List String :=
  m.recipients.getD []

end Message

end Herald
