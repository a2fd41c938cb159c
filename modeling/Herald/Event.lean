import Herald.Json.Printer
import Herald.Time.Text

/-!
# Events

What a subscriber is told: a target was registered or removed, a dispatch stamped it, a send ended well or badly.
-/

namespace Herald

/-- A change in what can be seen of a target. -/
inductive Event
  | registered (identity : String)
  | removed (identity : String)
  | activated (identity : String) (at' : Instant)
  | sendSucceeded (identity : String)
  | sendFailed (identity : String) (error : String)
  deriving DecidableEq, Repr, Inhabited

namespace Event

/-- The target that an event is about. -/
def identity : Event → String
  | .registered i => i
  | .removed i => i
  | .activated i _ => i
  | .sendSucceeded i => i
  | .sendFailed i _ => i

/-- The name of the kind of an event. -/
def kind : Event → String
  | .registered _ => "registered"
  | .removed _ => "removed"
  | .activated _ _ => "activated"
  | .sendSucceeded _ => "send_succeeded"
  | .sendFailed _ _ => "send_failed"

/-- The event as a value: its kind, its target, and what else there is to tell. -/
def toValue (e : Event) : Value :=
  .object <| [("event", .text e.kind), ("identity", .text e.identity)] ++
    match e with
    | .activated _ t => [("at", .text t.render)]
    | .sendFailed _ error => [("error", .text error)]
    | _ => []

/-- Whether the event tells how a send ended. -/
def isOutcome : Event → Bool
  | .sendSucceeded _ => true
  | .sendFailed _ _ => true
  | _ => false

/-- The activation that an event tells of, if it does. -/
def activation? : Event → Option (String × Instant)
  | .activated i t => some (i, t)
  | _ => none

end Event

end Herald
