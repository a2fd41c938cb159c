import Herald.Description
import Herald.Failure
import Herald.Message
import Herald.Target.Config
import Herald.Text.Quoted
import Herald.Time.Instant
import Herald.Time.Span

/-!
# Targets

A target describes itself, delivers messages over its channel, and may have something to release when it leaves the registry. A
channel of its own is a function from messages to outcomes, so that an application can register whatever it likes.
-/

namespace Herald

/-- What comes of one delivery. -/
inductive Outcome
  | sent
  | failed (failure : Failure)
  /-- The delivery broke off, with a message or without one. -/
  | panicked (text : Option String)
  deriving DecidableEq, Repr, Inhabited

/-- The failure of a delivery that broke off in the task of some number. -/
def Outcome.aborted (task : Nat) : Option String → Failure
  | some text => ⟨"send task aborted: task " ++ toString task ++ " panicked with message " ++ Text.quoted text, []⟩
  | none => ⟨"send task aborted: task " ++ toString task ++ " panicked", []⟩

/-- When a target is handed a message, and in the task of which number: tasks are numbered as they come up, whatever they are for. -/
structure Turn where
  task : Nat
  now : Instant
  deriving DecidableEq, Repr, Inhabited

/-- What came of one delivery, and the number of its task. -/
structure Ended where
  task : Nat
  outcome : Outcome
  deriving DecidableEq, Repr, Inhabited

/-- The failure that it amounts to, if it does. -/
def Ended.failure? (e : Ended) : Option Failure :=
  match e.outcome with
  | .sent => none
  | .failed failure => some failure
  | .panicked text => some (Outcome.aborted e.task text)

/-- A channel that an application brings along. -/
structure Handler where
  /-- What the application calls it. -/
  label : String
  send : Message → Outcome
  /-- What comes of releasing it, if there is anything to release. -/
  release : Option (Except Failure Unit) := none

/-- How a target delivers. -/
inductive Channel
  | log
  | inbox
  | webhook (url : String) (format : WebhookFormat) (timeout : Span)
  | websocket (host : String)
  | custom (handler : Handler)

/-- An endpoint of notifications. -/
structure Target where
  description : Description := {}
  /-- The class that counts before the one of the description. -/
  override : Option DeviceClass := none
  channel : Channel

namespace Target

/-- The features the target understands. -/
def features (t : Target) : FeatureSet :=
  t.description.features

/-- The class of the target. -/
def deviceClass (t : Target) : Option DeviceClass :=
  t.description.resolveClass t.override

/-- The name the target is shown under when it is registered under an identity. -/
def displayName (t : Target) (identity : String) : String :=
  t.description.displayName identity t.override

/-- What comes of releasing the target. -/
def teardown (t : Target) : Except Failure Unit :=
  match t.channel with
  | .custom handler => handler.release.getD (.ok ())
  | _ => .ok ()

end Target

end Herald
