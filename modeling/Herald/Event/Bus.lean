import Herald.Event

/-!
# The event bus

The bus keeps the last events that were published, as many as its capacity says. A subscriber stands at a position in the sequence
of all of them: it starts at the end, reads forward, and when it has fallen behind further than the bus reaches back it is told how
many events it lost and goes on with the oldest that is kept.
-/

namespace Herald

/-- A bus with everything that was published on it, the oldest first. -/
structure Bus where
  capacity : Nat
  published : List Event := []
  deriving Repr, Inhabited

/-- What a subscriber gets. -/
inductive Receipt
  | event (e : Event)
  | lagged (missed : Nat)
  deriving DecidableEq, Repr, Inhabited

namespace Bus

/-- A bus without events. The capacity is at least one and is rounded up to a power of two. -/
def ofCapacity (capacity : Nat) : Bus where
  capacity := (max capacity 1).nextPowerOfTwo

/-- The largest capacity that a bus can be given. The events of a larger one would not fit the address space. -/
def maxCapacity : Nat := Nat.pow 2 56

/-- Publishes an event. -/
def publish (b : Bus) (e : Event) : Bus :=
  { b with published := b.published ++ [e] }

/-- Publishes events one after the other. -/
def publishAll (b : Bus) (es : List Event) : Bus :=
  { b with published := b.published ++ es }

/-- How many events were published. -/
def size (b : Bus) : Nat :=
  b.published.length

/-- The position of the oldest event that is kept. -/
def oldest (b : Bus) : Nat :=
  b.size - b.capacity

/-- What a subscriber at a position gets next, and its position after that. -/
def receive (b : Bus) (position : Nat) : Option (Receipt × Nat) :=
  if position < b.oldest then some (.lagged (b.oldest - position), b.oldest)
  else (b.published[position]?).map fun e => (.event e, position + 1)

/-- All that a subscriber at a position gets until nothing is left, and its position after that. -/
def receiveAll (b : Bus) (position : Nat) : List Receipt × Nat :=
  let lag := if position < b.oldest then [.lagged (b.oldest - position)] else []
  (lag ++ (b.published.drop (max position b.oldest)).map .event, b.size)

end Bus

end Herald
