import Herald.Keyed
import Herald.Target
import Herald.Time.Instant
import Herald.Time.Text

/-!
# The registry

The targets that can be addressed, each under its identity. The first registration of an identity gives it a place in the order of
discovery, which it keeps as long as it stays registered; last activations are kept by place, so a replacement takes over the one of the
target before it, and whoever holds on to a replaced registration still stamps the same place.

Registering consists of four steps, and each is a function of its own: `allocate` finds the place, `tearDown` releases the target that
is replaced while it is still the one that is found, `stamp` restores what was saved, and `put` makes the new registration the one that
is found. Removing takes the registration away first, and releases its target then.
-/

namespace Herald

/-- A registration of a target. -/
structure Registration where
  identity : String
  /-- The place in the order of discovery, counted from zero. -/
  place : Nat
  /-- The number of the registration, counted from zero over all identities. -/
  serial : Nat
  target : Target

/-- What can be seen of a registered target. -/
structure TargetInfo where
  identity : String
  name : String
  deviceClass : Option DeviceClass
  features : FeatureSet
  lastNotified : Option Instant
  deriving DecidableEq, Repr

namespace TargetInfo

/-- The fields of the value, in the order in which they are listed. -/
def toFields (i : TargetInfo) : List (String × Value) := [
  ("identity", .text i.identity),
  ("name", .text i.name),
  ("device_class", (i.deviceClass.map DeviceClass.toValue).getD .null),
  ("supported_features", i.features.toValue),
  ("last_notified", .ofText? (i.lastNotified.map (·.render)))]

/-- What can be seen, as a value. -/
def toValue (i : TargetInfo) : Value :=
  .object i.toFields

end TargetInfo

/-- A target that was released: its registration, the one that its identity was resolved to at that moment, and what came of it. -/
structure Teardown where
  registration : Registration
  resolved : Option Registration
  result : Except Failure Unit

/-- The registrations by identity, the last activations by place, and how many registrations there were. -/
structure Registry where
  registered : Keyed Registration := []
  stamps : List (Option Instant) := []
  registrations : Nat := 0

namespace Registry

/-- The registration that an identity resolves to. -/
def resolve (r : Registry) (identity : String) : Option Registration :=
  r.registered.get? identity

/-- Whether an identity is registered. -/
def contains (r : Registry) (identity : String) : Bool :=
  (r.resolve identity).isSome

/-- How many targets are registered. -/
def size (r : Registry) : Nat :=
  r.registered.length

/-- The last activation at a place. -/
def lastNotified (r : Registry) (place : Nat) : Option Instant :=
  r.stamps[place]?.join

/-- Stamps an activation at a place and gives what is stored there now. It never moves backwards. -/
def stamp (r : Registry) (place : Nat) (now : Instant) : Instant × Registry :=
  let at' := match r.lastNotified place with
    | some last => if now < last then last else now
    | none => now
  (at', { r with stamps := r.stamps.set place (some at') })

/-- The place of an identity, which is a new one unless the identity is registered. -/
def allocate (r : Registry) (identity : String) : Nat × Registry :=
  match r.resolve identity with
  | some e => (e.place, r)
  | none => (r.stamps.length, { r with stamps := r.stamps ++ [none] })

/-- Makes a target the one that an identity resolves to. -/
def put (r : Registry) (identity : String) (place : Nat) (target : Target) : Registry :=
  { r with registered := r.registered.insert identity ⟨identity, place, r.registrations, target⟩, registrations := r.registrations + 1 }

/-- Takes an identity away. -/
def remove (r : Registry) (identity : String) : Registry :=
  { r with registered := r.registered.erase identity }

/-- Takes every identity away. -/
def removeAll (r : Registry) : Registry :=
  { r with registered := [] }

/-- Releases the target of a registration. -/
def tearDown (r : Registry) (e : Registration) : Teardown :=
  ⟨e, r.resolve e.identity, e.target.teardown⟩

/-- Registers a target under an identity, with the activation that was saved for it. A target before it is released first. -/
def register (r : Registry) (restored : Option Instant) (identity : String) (target : Target) : Registry × List Teardown :=
  let teardowns := (r.resolve identity).toList.map r.tearDown
  let (place, r) := r.allocate identity
  let r := match restored with
    | some t => (r.stamp place t).2
    | none => r
  (r.put identity place target, teardowns)

/-- Removes an identity and releases its target, if it is registered. -/
def unregister (r : Registry) (identity : String) : Option (Registry × Teardown) :=
  (r.resolve identity).map fun e => (r.remove identity, (r.remove identity).tearDown e)

/-- The registrations in the order of discovery. -/
def discovered (r : Registry) : List Registration :=
  (r.registered.map (·.2)).mergeSort fun a b => a.place ≤ b.place

/-- Removes every identity and releases the targets in the order of discovery. -/
def clear (r : Registry) : Registry × List Teardown :=
  (r.removeAll, r.discovered.map r.removeAll.tearDown)

/-- What can be seen of the target of a registration. -/
def info (r : Registry) (e : Registration) : TargetInfo where
  identity := e.identity
  name := e.target.displayName e.identity
  deviceClass := e.target.deviceClass
  features := e.target.features
  lastNotified := r.lastNotified e.place

/-- What can be seen of all targets, in the order of discovery. -/
def snapshot (r : Registry) : List TargetInfo :=
  r.discovered.map r.info

/-- The last activations of the targets that have one, by identity. -/
def activations (r : Registry) : Keyed Instant :=
  r.registered.filterMap fun p => (r.lastNotified p.2.place).map fun t => (p.1, t)

end Registry

end Herald
