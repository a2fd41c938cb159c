import Herald.DispatchError
import Herald.Message

/-!
# Service calls

A call names one target or several and carries the fields of a message. It is read strictly: unknown fields are rejected, a target
named twice counts once, and no target may be blank.
-/

namespace Herald

/-- A validated service call. -/
structure Call where
  targets : List String
  message : Message
  deriving Repr, Inhabited

namespace Call

/-- The name under which the service is offered. -/
def service : String := "send_message"

/-- The reason why a call without targets is invalid. -/
def noTarget : String := "at least one target is required"

/-- The reason why a call with a blank target is invalid. -/
def blankTarget (identity : String) : String :=
  "invalid target identity '" ++ identity ++ "'"

/-- The reason why a value is neither a text nor a list of texts. -/
def notOneOrMany : String := "data did not match any variant of untagged enum OneOrMany"

/-- The texts of a list that holds nothing else. -/
def texts? : List Value → Option (List String)
  | [] => some []
  | .text s :: rest => (texts? rest).map (s :: ·)
  | _ => none

/-- Reads one text or a list of texts. -/
def oneOrMany : Value → Reading (List String)
  | .text s => .ok [s]
  | .list items =>
    match texts? items with
    | some texts => .ok texts
    | none => Reading.fault (.custom notOneOrMany)
  | _ => Reading.fault (.custom notOneOrMany)

/-- What has been read of a call. -/
structure Draft where
  targets : Option (List String) := none
  message : Message := {}

/-- How the fields of a call are read. -/
def reader : RecordReader Draft where
  name := "RawSendMessageCall"
  fields := ["target", "message", "title", "recipients", "data"]
  optional := []
  isOpen := false
  set d field v :=
    match field with
    | "target" => do return { d with targets := some (← oneOrMany v) }
    | "message" => do return { d with message := { d.message with message := ← v.asOption Value.asText } }
    | "title" => do return { d with message := { d.message with title := ← v.asOption Value.asText } }
    | "recipients" => do return { d with message := { d.message with recipients := ← v.asOption oneOrMany } }
    | "data" => do return { d with message := { d.message with data := ← v.asOption Value.asFields } }
    | _ => .ok d

/-- Reads the targets, as given, and the message of a call. -/
def readFields (v : Value) : Reading (List String × Message) := do
  let d ← reader.read .document {} v
  match d.targets with
  | none => Reading.fault (.missing "target")
  | some targets => return (targets, d.message)

/-- Reads and validates a call. -/
def ofValue (v : Value) : Except DispatchError Call :=
  match readFields v with
  | .error f => .error (.validation (f.message .document))
  | .ok (targets, message) =>
    match targets.eraseDups with
    | [] => .error (.validation noTarget)
    | distinct =>
      match distinct.find? Text.isBlank with
      | some blank => .error (.validation (blankTarget blank))
      | none => .ok ⟨distinct, message⟩

end Call

end Herald
