import Herald.State.Backend

/-!
# The store

The last activation of every target that was ever seen, as it is in memory, and whether it differs from what was saved. A record never
moves backwards. A flush takes the mark off first and puts it back when the save fails, so that what is recorded meanwhile is saved
by the next one.
-/

namespace Herald

/-- The activations and the mark that they have to be saved. -/
structure Store where
  targets : Keyed Instant
  dirty : Bool := false
  deriving DecidableEq, Repr, Inhabited

namespace Store

/-- The store of a loaded snapshot. -/
def ofSnapshot (s : Snapshot) : Store :=
  ⟨s.targets, false⟩

/-- The last activation of a target. -/
def restored (s : Store) (identity : String) : Option Instant :=
  s.targets.get? identity

/-- Records an activation. Tells whether that changed anything. -/
def record (s : Store) (identity : String) (t : Instant) : Bool × Store :=
  match s.restored identity with
  | some last => if t ≤ last then (false, s) else (true, ⟨s.targets.insert identity t, true⟩)
  | none => (true, ⟨s.targets.insert identity t, true⟩)

/-- Records every activation of a list. -/
def sync (s : Store) (activations : List (String × Instant)) : Store :=
  activations.foldl (fun s a => (s.record a.1 a.2).2) s

/-- The store with the mark. -/
def mark (s : Store) : Store :=
  { s with dirty := true }

/-- The store without the mark. -/
def unmark (s : Store) : Store :=
  { s with dirty := false }

/-- The store as a snapshot. -/
def snapshot (s : Store) : Snapshot :=
  .ofTargets s.targets

end Store

/-- A store with the backend it is saved to. -/
structure Vault where
  store : Store
  backend : Backend
  deriving Repr, Inhabited

namespace Vault

/-- Loads the store of a backend. -/
def load (files : Files) (backend : Backend) : Except Failure Vault := do
  return ⟨.ofSnapshot (← backend.load files), backend⟩

/-- Changes the store. -/
def modify (v : Vault) (f : Store → Store) : Vault :=
  { v with store := f v.store }

/-- Saves the store if it has the mark. -/
def flush (v : Vault) (files : Files) : Vault × Files × Except Failure Unit :=
  if !v.store.dirty then (v, files, .ok ())
  else
    let clean := v.store.unmark
    match v.backend.save files clean.snapshot with
    | (backend, files, .ok ()) => (⟨clean, backend⟩, files, .ok ())
    | (backend, files, .error failure) => (⟨clean.mark, backend⟩, files, .error failure)

end Vault

end Herald
