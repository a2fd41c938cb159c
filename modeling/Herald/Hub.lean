import Herald.Call
import Herald.Event.Bus
import Herald.Pool
import Herald.Target.Delivery

/-!
# The hub

The one way to a target. A dispatch looks its target up and checks the message, stamps the activation, tells the subscribers, and hands
the send to the pool; a dispatch that is rejected leaves the hub as it is. A service call checks all its targets before it stamps the
first. What the pool does with its sends are steps of their own, `start?` and `finish?`, and `settle` takes such steps until none is
left.
-/

namespace Herald

/-- The registry, the bus and the pool, the inbox of the targets that have one, and what the targets were handed. -/
structure Hub where
  registry : Registry := {}
  bus : Bus
  pool : Pool
  /-- Whether a message with fields that its target does not support is rejected. -/
  enforceFeatures : Bool := false
  inbox : Inbox := {}
  /-- The sends that targets were busy with to their end, in the order in which they ended. -/
  handed : List Send := []
  /-- What the targets wrote to the log. -/
  logs : List LogRecord := []

namespace Hub

/-- Tells the subscribers. -/
def publish (h : Hub) (e : Event) : Hub :=
  { h with bus := h.bus.publish e }

/-- Registers a target under an identity, with the activation that was saved for it. -/
def register (h : Hub) (restored : Option Instant) (identity : String) (target : Target) : Hub × List Teardown :=
  let (registry, teardowns) := h.registry.register restored identity target
  ({ h with registry }.publish (.registered identity), teardowns)

/-- Removes an identity. One that is not registered is passed over. -/
def unregister (h : Hub) (identity : String) : Hub × List Teardown :=
  match h.registry.unregister identity with
  | some (registry, teardown) => ({ h with registry }.publish (.removed identity), [teardown])
  | none => (h, [])

/-- Removes every identity. -/
def clear (h : Hub) : Hub × List Teardown :=
  let (registry, teardowns) := h.registry.clear
  ({ h with registry, bus := h.bus.publishAll (teardowns.map fun t => .removed t.registration.identity) }, teardowns)

/-- The reason why a target is not sent a message. -/
def unsupported (identity : String) (missing : FeatureSet) : String :=
  "target '" ++ identity ++ "' does not support: " ++ missing.display

/-- Looks up the target of an identity and checks that it can be sent a message. -/
def check (h : Hub) (m : Message) (identity : String) : Except DispatchError Registration :=
  match h.registry.resolve identity with
  | none => .error (.targetNotFound identity)
  | some registration =>
    let missing := registration.target.features.missing m.required
    if h.enforceFeatures && !missing.isEmpty then .error (.validation (unsupported identity missing))
    else .ok registration

/-- Stamps an activation, tells the subscribers, and submits the send. Gives the ticket. -/
def activate (h : Hub) (now : Instant) (registration : Registration) (m : Message) : Nat × Hub :=
  let (at', registry) := h.registry.stamp registration.place now
  let (ticket, pool) := h.pool.submit ⟨registration, m⟩
  (ticket, { h with registry, pool }.publish (.activated registration.identity at'))

/-- Activates registrations one after the other. `now` tells the time when the registration of each position is stamped. -/
def activateAll (m : Message) (now : Nat → Instant) : Nat → List Registration → Hub → List Nat × Hub
  | _, [], h => ([], h)
  | position, registration :: rest, h =>
    let (ticket, h) := h.activate (now position) registration m
    let (tickets, h) := activateAll m now (position + 1) rest h
    (ticket :: tickets, h)

/-- An operation on the hub that may be rejected. What it did to the hub before it was rejected stays done. -/
abbrev Operation := ExceptT DispatchError (StateM Hub)

namespace Operation

/-- Looks up and checks a target in the hub as it is at that moment. -/
def check (m : Message) (identity : String) : Operation Registration :=
  ExceptT.mk fun h => (h.check m identity, h)

/-- Activates registrations one after the other. -/
def activateAll (m : Message) (now : Nat → Instant) (registrations : List Registration) : Operation (List Nat) :=
  ExceptT.mk fun h =>
    let (tickets, h) := Hub.activateAll m now 0 registrations h
    (.ok tickets, h)

/-- Sends a message to a target and gives the ticket of the send. -/
def dispatch (now : Instant) (identity : String) (m : Message) : Operation Nat := do
  let registration ← check m identity
  ExceptT.mk fun h =>
    let (ticket, h) := h.activate now registration m
    (.ok ticket, h)

/-- Handles a service call and gives the tickets of its sends. -/
def callService (now : Nat → Instant) (data : Value) : Operation (List Nat) := do
  let call ← ExceptT.mk (pure (Call.ofValue data))
  let registrations ← call.targets.mapM (check call.message)
  activateAll call.message now registrations

/-- The result of an operation with the hub that it leaves. One that is rejected is expected to leave the hub it was called on. -/
def on {α : Type} (operation : Operation α) (h : Hub) : Except DispatchError (α × Hub) :=
  match operation.run h with
  | (.ok a, h) => .ok (a, h)
  | (.error e, _) => .error e

end Operation

/-- Sends a message to a target and gives the ticket of the send. -/
def dispatch (h : Hub) (now : Instant) (identity : String) (m : Message) : Except DispatchError (Nat × Hub) :=
  (Operation.dispatch now identity m).on h

/-- Handles a service call and gives the tickets of its sends. -/
def callService (h : Hub) (now : Nat → Instant) (data : Value) : Except DispatchError (List Nat × Hub) :=
  (Operation.callService now data).on h

/-- Sends a message to a target and waits for the end of the send, for a while where there is a limit. `meanwhile` is what happens to
the hub in between. There is no answer where the send has not ended and there is no limit. -/
def sendAndWait (h : Hub) (now : Instant) (identity : String) (m : Message) (limit : Option Span) (meanwhile : Hub → Hub) :
    Option (Except DispatchError Unit) × Hub :=
  match (Operation.dispatch now identity m).run h with
  | (.error e, h) => (some (.error e), h)
  | (.ok ticket, h) =>
    let h := meanwhile h
    (h.pool.await? limit ticket, h)

/-- A worker takes on a send. -/
def start? (h : Hub) (ticket : Nat) : Option Hub :=
  (h.pool.start? ticket).map fun pool => { h with pool }

/-- A target is handed its message in some turn and is done with it. -/
def finish? (h : Hub) (network : Network) (turn : Turn) (ticket : Nat) : Option Hub := do
  let send := (← h.pool.submissions[ticket]?).send
  let delivery := send.registration.target.deliver network turn.now h.inbox send.message
  let ended : Ended := ⟨turn.task, delivery.outcome⟩
  let pool ← h.pool.finish? ticket ended
  let h := { h with pool, inbox := delivery.inbox, handed := h.handed ++ [send], logs := h.logs ++ delivery.logs }
  return h.publish (send.event ended)

/-- The next step of the pool: the send that has waited longest gets a free worker, else the first that can end is ended. `turns` tells
the turn of a send by how many have ended before it. -/
def advance? (h : Hub) (network : Network) (turns : Nat → Turn) (canEnd : Send → Bool) : Option Hub :=
  (h.pool.nextWaiting?.bind h.start?).or ((h.pool.nextSending? canEnd).bind (h.finish? network (turns h.handed.length)))

/-- Takes so many steps of the pool, or as many as there are. -/
def advances (network : Network) (turns : Nat → Turn) (canEnd : Send → Bool) : Nat → Hub → Hub
  | 0, h => h
  | n + 1, h =>
    match h.advance? network turns canEnd with
    | some h => advances network turns canEnd n h
    | none => h

/-- Takes steps of the pool until none is left. Every send takes two at most. -/
def settle (h : Hub) (network : Network) (turns : Nat → Turn) (canEnd : Send → Bool) : Hub :=
  advances network turns canEnd (2 * h.pool.submissions.length) h

end Hub

end Herald
