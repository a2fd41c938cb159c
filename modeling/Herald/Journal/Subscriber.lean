import Herald.Event.Bus
import Herald.Journal.Record

/-!
# The journal

A subscriber of the event bus that writes a record for every event, and a warning for events that it lost. It ends when it is told to
shut down, which counts before anything that waits, or when the bus is closed and everything on it was read.
-/

namespace Herald.Journal

/-- How a run of the journal ends. -/
inductive End
  | closed
  | shutdown
  deriving DecidableEq, Repr

/-- The record of an event. -/
def recordOf (e : Event) : LogRecord :=
  let target := ("target_id", e.identity)
  match e with
  | .registered _ => ⟨.info, "Notify target registered", [target]⟩
  | .removed _ => ⟨.info, "Notify target removed", [target]⟩
  | .activated _ t => ⟨.debug, "Notify target activated", [target, ("at", t.renderOffset)]⟩
  | .sendSucceeded _ => ⟨.debug, "Notification delivered", [target]⟩
  | .sendFailed _ error => ⟨.warn, "Notification delivery failed", [target, ("error", error)]⟩

/-- The record of what the bus handed over. -/
def recordReceipt : Receipt → LogRecord
  | .event e => recordOf e
  | .lagged missed => ⟨.warn, "LoggingSubscriber lagged behind and missed " ++ toString missed ++ " events.", []⟩

/-- The first record of a run. -/
def started : LogRecord :=
  ⟨.info, "LoggingSubscriber started.", []⟩

/-- The last record of a run. -/
def ended : End → LogRecord
  | .closed => ⟨.info, "Event channel closed. LoggingSubscriber shutting down.", []⟩
  | .shutdown => ⟨.info, "LoggingSubscriber received shutdown signal.", []⟩

/-- One step of a run: the record of the next receipt, and the position after it. -/
def step (b : Bus) (position : Nat) : Option (LogRecord × Nat) :=
  (b.receive position).map fun (receipt, position) => (recordReceipt receipt, position)

/-- The records of a run that handles everything on the bus from a position on before it ends. -/
def run (b : Bus) (position : Nat) (how : End) : List LogRecord :=
  started :: (b.receiveAll position).1.map recordReceipt ++ [ended how]

/-- The records of a run that is told to shut down before it handles anything. -/
def runStopped : List LogRecord :=
  [started, ended .shutdown]

end Herald.Journal
