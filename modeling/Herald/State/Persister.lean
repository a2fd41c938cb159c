import Herald.Event.Bus
import Herald.State.Store

/-!
# The persister

The background task that follows the bus, records activations, and saves the store now and then and once more at the end. The bus is
only its fast path: before every save, and whenever it lost events, it also asks for the live activations.
-/

namespace Herald

/-- The store that the persister keeps, and its position on the bus. -/
structure Persister where
  vault : Vault
  position : Nat
  deriving Repr, Inhabited

namespace Persister

/-- Handles what the bus handed over; after a loss the live activations are asked for. -/
def handle (source : List (String × Instant)) (v : Vault) : Receipt → Vault
  | .event (.activated identity t) => v.modify fun s => (s.record identity t).2
  | .event _ => v
  | .lagged _ => v.modify fun s => s.sync source

/-- Handles the next receipt, if there is one. -/
def step (p : Persister) (bus : Bus) (source : List (String × Instant)) : Option Persister :=
  (bus.receive p.position).map fun (receipt, position) => ⟨handle source p.vault receipt, position⟩

/-- Handles everything that waits on the bus. -/
def follow (p : Persister) (bus : Bus) (source : List (String × Instant)) : Persister :=
  let (receipts, position) := bus.receiveAll p.position
  ⟨receipts.foldl (handle source) p.vault, position⟩

/-- Records the live activations and saves. A save that fails is only noted in the log. -/
def tick (p : Persister) (source : List (String × Instant)) (files : Files) : Persister × Files :=
  let (vault, files, _) := (p.vault.modify fun s => s.sync source).flush files
  ({ p with vault }, files)

/-- Records what still waits on the bus when the run is over; a loss is passed over there. -/
def drain (p : Persister) (bus : Bus) : Persister :=
  p.follow bus []

/-- The end of a run: what waits on the bus is recorded, then the live activations, and all is saved. -/
def finish (p : Persister) (bus : Bus) (source : List (String × Instant)) (files : Files) : Persister × Files :=
  (p.drain bus).tick source files

end Persister

end Herald
