import Herald.Text.Ascii
import Herald.Text.Space
import Herald.Value.Reading

/-!
# Device classes

The class of a target, which gives a target without a name the name it is shown under.
-/

namespace Herald

/-- A class of targets. -/
inductive DeviceClass
  | messageNotifier
  deriving DecidableEq, Repr

namespace DeviceClass

/-- The name of the class where it is read and written. -/
def name : DeviceClass → String
  | .messageNotifier => "message_notifier"

/-- The name of the class where it is shown. -/
def displayName : DeviceClass → String
  | .messageNotifier => "Message notifier"

/-- The class that a text names, or the text in small letters and without the blanks around it. -/
def ofName (text : String) : Except String DeviceClass :=
  let text := Text.lower (Text.trim text)
  if text = messageNotifier.name then .ok .messageNotifier else .error text

/-- The reason why a text names no class. -/
def unknownClass (text : String) : String :=
  "unknown device class: " ++ text

/-- Reads a class from its name. -/
def ofValue (v : Value) : Reading DeviceClass := do
  let text ← v.asText
  match ofName text with
  | .ok c => return c
  | .error text => Reading.fault (.custom (unknownClass text))

/-- The class as its name. -/
def toValue (c : DeviceClass) : Value :=
  .text c.name

end DeviceClass

end Herald
