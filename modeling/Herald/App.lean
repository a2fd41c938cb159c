import Herald.Hub
import Herald.Settings
import Herald.State.Persister
import Herald.Supervisor
import Herald.Target.Build

/-!
# The application

A hub with the targets of the settings, the store of their activations, and the background tasks. Building it loads the store first, so
that every target is registered with the activation that was saved for it; shutting it down waits for the tasks, records the live
activations, releases the targets and saves, in this order and whatever failed on the way.
-/

namespace Herald

/-- The parts of a running application. -/
structure App where
  hub : Hub
  persister : Persister
  /-- Whether the persister still runs. -/
  persists : Bool
  supervisor : Supervisor
  /-- How long callers should wait for a send. -/
  defaultTimeout : Option Span

namespace App

/-- Why an application cannot be built. -/
inductive BuildError
  /-- The bus cannot be given the capacity. -/
  | capacityTooLarge
  /-- The pool cannot be given so many workers. -/
  | tooManyWorkers
  | failed (failure : Failure)
  deriving DecidableEq, Repr

/-- The name of the task that logs events. -/
def loggerName : String := "LoggingSubscriber"

/-- The name of the task that saves activations. -/
def persisterName : String := "StatePersister"

/-- Where the settings want activations to be saved. -/
def backend (s : StateSettings) : Backend :=
  match s.path with
  | some path => .file path
  | none => .emptyMemory

/-- The identity and the target of an entry of the settings. -/
def configured (c : TargetConfig) : Except Failure (String × Target) := do
  return (← c.identity, ← c.build)

/-- Registers a target with the activation that a store has for it. -/
def registerFrom (store : Store) (state : Hub × List Teardown) (target : String × Target) : Hub × List Teardown :=
  let (hub, teardowns) := state.1.register (store.restored target.1) target.1 target.2
  (hub, state.2 ++ teardowns)

/-- The background tasks. The one that saves activations cannot run without an interval. -/
def tasks (flushIntervalSeconds : Nat) : Supervisor :=
  (Supervisor.spawn {} ⟨loggerName, false⟩).spawn ⟨persisterName, flushIntervalSeconds == 0⟩

/-- Builds an application: the targets of the settings are registered, then the extra ones. Gives the targets that were released when
another took their identity. -/
def build (settings : Settings) (backend : Backend) (extras : List (String × Target)) (files : Files) :
    Except BuildError (App × List Teardown) :=
  if Bus.maxCapacity < settings.eventCapacity then .error .capacityTooLarge
  else
    match Vault.load files backend with
    | .error failure => .error (.failed failure)
    | .ok vault =>
      match settings.targets.mapM configured with
      | .error failure => .error (.failed failure)
      | .ok targets =>
        if Pool.limit < settings.maxWorkers then .error .tooManyWorkers
        else
          let empty : Hub := {
            bus := .ofCapacity settings.eventCapacity
            pool := .ofWorkers settings.maxWorkers
            enforceFeatures := settings.dispatch.enforceFeatures }
          let (hub, teardowns) := (targets ++ extras).foldl (registerFrom vault.store) (empty, [])
          .ok ({
            hub
            persister := ⟨vault, 0⟩
            persists := settings.state.flushIntervalSeconds != 0
            supervisor := tasks settings.state.flushIntervalSeconds
            defaultTimeout := settings.dispatch.defaultTimeoutSeconds.map .ofSeconds }, teardowns)

/-- The store as it is in memory. -/
def store (a : App) : Store :=
  a.persister.vault.store

/-- The activations of the registered targets. -/
def activations (a : App) : List (String × Instant) :=
  a.hub.registry.activations

/-- The application with a changed hub. -/
def withHub (a : App) (hub : Hub) : App :=
  { a with hub }

/-- The application with a changed store. -/
def modifyStore (a : App) (f : Store → Store) : App :=
  { a with persister := { a.persister with vault := a.persister.vault.modify f } }

/-- Registers a target while the application runs. -/
def register (a : App) (identity : String) (target : Target) : App × List Teardown :=
  let (hub, teardowns) := a.hub.register (a.store.restored identity) identity target
  (a.withHub hub, teardowns)

/-- The persister handles what waits for it on the bus. -/
def follow (a : App) : App :=
  if a.persists then { a with persister := a.persister.follow a.hub.bus a.activations } else a

/-- The persister saves, as it does from time to time. -/
def tick (a : App) (files : Files) : App × Files :=
  if a.persists then
    let (persister, files) := a.persister.tick a.activations files
    ({ a with persister }, files)
  else (a, files)

/-- What an application leaves behind. -/
structure Shutdown where
  hub : Hub
  vault : Vault
  files : Files
  teardowns : List Teardown
  result : Except Failure Unit

/-- The reason of a shutdown whose save failed. -/
def flushReason : String := "flushing notify state on shutdown"

/-- The reason of a shutdown after tasks had broken off. -/
def panickedReason (names : List String) : String :=
  "background tasks panicked: " ++ ", ".intercalate names

/-- Shuts an application down. -/
def shutdown (a : App) (files : Files) : Shutdown :=
  let (panicked, _) := a.supervisor.shutdown
  let (persister, files) := if a.persists then a.persister.finish a.hub.bus a.activations files else (a.persister, files)
  let vault := persister.vault.modify fun s => s.sync a.activations
  let (hub, teardowns) := a.hub.clear
  let (vault, files, flushed) := vault.flush files
  let result := match flushed with
    | .error failure => .error (failure.context flushReason)
    | .ok () => if panicked.isEmpty then .ok () else .error ⟨panickedReason panicked, []⟩
  { hub, vault, files, teardowns, result }

end App

end Herald
