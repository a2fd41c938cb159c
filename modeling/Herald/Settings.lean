import Herald.Target.Config

/-!
# Settings

What a run is set up with: how much is logged, how many sends may run at once, how calls are checked and how long they are waited
for, how many events are kept, where activations are saved and how often, and the targets. `Settings.ofValue` reads them from a value,
`Settings.check` refuses those with which nothing would ever run.
-/

namespace Herald

/-- How calls are checked and how long they are waited for. -/
structure DispatchSettings where
  /-- Whether a target is refused a message with fields that it does not support. -/
  enforceFeatures : Bool := false
  defaultTimeoutSeconds : Option Nat := none
  deriving DecidableEq, Repr, Inhabited

/-- Where activations are saved and how often. -/
structure StateSettings where
  path : Option String := none
  flushIntervalSeconds : Nat
  deriving DecidableEq, Repr, Inhabited

/-- What a run is set up with. -/
structure Settings where
  logLevel : String
  /-- How many sends may run at once. -/
  maxWorkers : Nat
  dispatch : DispatchSettings
  /-- How many events the bus keeps. -/
  eventCapacity : Nat
  state : StateSettings
  targets : List TargetConfig
  deriving DecidableEq, Repr, Inhabited

namespace Settings

/-- The settings of a machine with so many processors, where nothing else is said. -/
def standard (processors : Nat) : Settings where
  logLevel := "info"
  maxWorkers := max 1 processors
  dispatch := ⟨false, some 30⟩
  eventCapacity := 1024
  state := ⟨none, 5⟩
  targets := []

/-- What a field must hold that has no value of its own. -/
def required {α : Type} (field : String) : Option α → Reading α
  | some a => .ok a
  | none => Reading.fault (.missing field)

/-- Reads a section whose only field is a number of things. -/
def readCount (source : Source) (title field : String) (v : Value) : Reading Nat := do
  let reader : RecordReader (Option Nat) := ⟨title, [field], [], true, fun _ _ v => (v.asNat "usize").map some⟩
  required field (← reader.read source none v)

/-- How the section on calls is read. -/
def dispatchReader : RecordReader DispatchSettings where
  name := "DispatchConfig"
  fields := ["enforce_features", "default_timeout_seconds"]
  optional := ["enforce_features"]
  isOpen := true
  set d field v :=
    match field with
    | "enforce_features" => do return { d with enforceFeatures := ← v.asBool }
    | _ => do return { d with defaultTimeoutSeconds := ← v.asOption (Value.asNat "u64") }

/-- How the section on activations is read. The interval is set apart until it is known to be there. -/
def stateReader : RecordReader (Option String × Option Nat) where
  name := "StateConfig"
  fields := ["path", "flush_interval_seconds"]
  optional := []
  isOpen := true
  set d field v :=
    match field with
    | "path" => do return (← v.asOption Value.asPath, d.2)
    | _ => do return (d.1, some (← v.asNat "u64"))

/-- Reads the section on activations. -/
def readState (source : Source) (v : Value) : Reading StateSettings := do
  let (path, interval) ← stateReader.read source (none, none) v
  return ⟨path, ← required "flush_interval_seconds" interval⟩

/-- The sections that have been read. -/
structure Draft where
  logLevel : Option String := none
  maxWorkers : Option Nat := none
  dispatch : Option DispatchSettings := none
  eventCapacity : Option Nat := none
  state : Option StateSettings := none
  targets : List TargetConfig := []

/-- How the whole is read. -/
def reader (source : Source) : RecordReader Draft where
  name := "Config"
  fields := ["log_level", "offload", "dispatch", "events", "state", "targets"]
  optional := ["targets"]
  isOpen := true
  set d field v :=
    match field with
    | "log_level" => do return { d with logLevel := some (← v.asText) }
    | "offload" => do return { d with maxWorkers := some (← readCount source "OffloadConfig" "max_workers" v) }
    | "dispatch" => do return { d with dispatch := some (← dispatchReader.read source {} v) }
    | "events" => do return { d with eventCapacity := some (← readCount source "EventsConfig" "capacity" v) }
    | "state" => do return { d with state := some (← readState source v) }
    | _ => do return { d with targets := ← v.asList TargetConfig.ofValue }

/-- Reads the settings. -/
def ofValue (source : Source) (v : Value) : Reading Settings := do
  let d ← (reader source).read source {} v
  return {
    logLevel := ← required "log_level" d.logLevel
    maxWorkers := ← required "offload" d.maxWorkers
    dispatch := ← required "dispatch" d.dispatch
    eventCapacity := ← required "events" d.eventCapacity
    state := ← required "state" d.state
    targets := d.targets }

/-- The settings as a value. -/
def toValue (s : Settings) : Value :=
  .ofFields [
    ("log_level", .text s.logLevel),
    ("offload", .ofFields [("max_workers", .unsigned s.maxWorkers)]),
    ("dispatch", .ofFields [("enforce_features", .bool s.dispatch.enforceFeatures),
      ("default_timeout_seconds", .ofNat? s.dispatch.defaultTimeoutSeconds)]),
    ("events", .ofFields [("capacity", .unsigned s.eventCapacity)]),
    ("state", .ofFields [("path", .ofText? s.state.path), ("flush_interval_seconds", .unsigned s.state.flushIntervalSeconds)]),
    ("targets", .list (s.targets.map TargetConfig.toValue))]

/-- Settings with which nothing would ever run. -/
inductive Defect
  | noWorkers
  | noFlushInterval
  deriving DecidableEq, Repr

/-- The wording of a defect. -/
def Defect.message : Defect → String
  | .noWorkers => "offload.max_workers must be at least 1"
  | .noFlushInterval => "state.flush_interval_seconds must be at least 1"

/-- The first defect of some settings. -/
def defect? (s : Settings) : Option Defect :=
  if s.maxWorkers = 0 then some .noWorkers
  else if s.state.flushIntervalSeconds = 0 then some .noFlushInterval
  else none

end Settings

end Herald
