import Herald.Failure
import Herald.Message
import Herald.Time.Instant

/-!
# The inbox

Notifications that stay until they are dismissed, the oldest creation first. A notification without an identity of its own gets the
next of a numbered series; one with the identity of another takes its place, at the end.
-/

namespace Herald

/-- A notification in the inbox. -/
structure Notification where
  id : String
  title : Option String
  message : String
  createdAt : Instant
  deriving DecidableEq, Repr, Inhabited

/-- The notifications and how many identities were generated so far. -/
structure Inbox where
  notifications : List Notification := []
  generated : Nat := 0
  deriving DecidableEq, Repr, Inhabited

namespace Inbox

/-- The key of the data of a message that names the notification. -/
def idKey : String := "notification_id"

/-- The identity of a number. -/
def generatedId (n : Nat) : String :=
  "notification_" ++ toString n

/-- The inbox without the notification of an identity. -/
def without (b : Inbox) (id : String) : Inbox :=
  { b with notifications := b.notifications.filter fun n => n.id != id }

/-- Creates a notification and gives its identity. -/
def create (b : Inbox) (now : Instant) (message : String) (title id : Option String) : String × Inbox :=
  let (id, b) := match id with
    | some id => (id, b)
    | none => (generatedId (b.generated + 1), { b with generated := b.generated + 1 })
  let b := b.without id
  (id, { b with notifications := b.notifications ++ [⟨id, title, message, now⟩] })

/-- Dismisses a notification and tells whether there was one. -/
def dismiss (b : Inbox) (id : String) : Bool × Inbox :=
  (b.notifications.any fun n => n.id == id, b.without id)

/-- How many notifications there are. -/
def size (b : Inbox) : Nat :=
  b.notifications.length

/-- The line that describes a message to the inbox. -/
def statusLine (name : Option String) (m : Message) : String :=
  "Name: " ++ name.getD "persistent" ++ ", Message: " ++ m.message.getD "None" ++ ", Title: " ++ m.title.getD "None" ++
    ", Recipients: " ++ (m.recipients.map fun r => "[" ++ ", ".intercalate r ++ "]").getD "None" ++
    ", Data: " ++ (m.data.map fun d => (Value.object d).compact).getD "None"

/-- The identity that the data of a message names, or why it names none. -/
def namedId (m : Message) : Except Failure (Option String) :=
  match m.data.bind (Keyed.get? idKey) with
  | none => .ok none
  | some (.text id) => .ok (some id)
  | some v => .error ⟨idKey ++ " must be a string, got " ++ v.compact, []⟩

/-- Turns a message into a notification, whose title is that of the message, else the name of the target. -/
def deliver (b : Inbox) (now : Instant) (name : Option String) (m : Message) : Except Failure Inbox := do
  let id ← namedId m
  return (b.create now (statusLine name m) (m.title.or name) id).2

end Inbox

end Herald
