import Herald.Proofs.Overlay
import Herald.Proofs.RecordReading
import Herald.Settings

/-!
# Settings, key by key

A value that has all sections, and in them every key, is read as settings by reading what stands under each key (`ofValue_of_isWhole`).
Other keys are passed over. So settings are read exactly if every value fits the type of its key (`assemble_eq_ok_iff`), and of values
that are alike the same is told (`told_assemble`): an object fits no key, and of an object nothing but that is told.
-/

namespace Herald

/-! ## Open records -/

namespace RecordReader

variable {σ : Type} {r : RecordReader σ} {start : σ}

/-- An object that has all fields of a record is read by reading these in their order. -/
theorem read_object_of_complete (hopen : r.isOpen = true) {fields : List (String × Value)} (hrising : Keyed.Rising fields)
    (names : List String) (hnames : names.Pairwise fun a b => a < b) (hknown : ∀ name, name ∈ r.fields ↔ name ∈ names)
    (hcomplete : ∀ name ∈ names, (Keyed.get? name fields).isSome) (source : Source) :
    r.read source start (.object fields) =
      names.foldlM (fun s name => Reading.under name (r.set s name ((Keyed.get? name fields).getD .null).spelled)) start := by
  have hfilter : fields.filter (fun p => r.fields.contains p.1) =
      names.map fun name => (name, (Keyed.get? name fields).getD .null) := by
    refine Keyed.Rising.ext (List.Pairwise.filter _ hrising) (List.pairwise_map.mpr hnames) fun p => ?_
    rw [List.mem_filter, List.contains_iff_mem, hknown, List.mem_map]
    constructor
    · rintro ⟨hp, hname⟩
      refine ⟨p.1, hname, ?_⟩
      rw [(Keyed.get?_eq_some_iff hrising).mpr hp]
      rfl
    · rintro ⟨name, hname, rfl⟩
      obtain ⟨v, hv⟩ := Option.isSome_iff_exists.mp (hcomplete name hname)
      rw [hv]
      exact ⟨Keyed.mem_of_get? hv, hname⟩
  have hskip : fields.foldlM r.readField start =
      (fields.filter fun p => r.fields.contains p.1).foldlM (fun s p => Reading.under p.1 (r.set s p.1 p.2.spelled)) start := by
    rw [List.foldlM_filter]
    congr 1
    funext s p
    rw [readField, hopen]
    rfl
  rw [read, hskip, hfilter, List.foldlM_map]

end RecordReader

namespace Settings

/-! ## Keys -/

/-- What can be set. -/
inductive Key
  | logLevel
  | maxWorkers
  | enforceFeatures
  | defaultTimeout
  | eventCapacity
  | statePath
  | flushInterval
  | targets

namespace Key

/-- The keys that lead to it. -/
def path : Key → List String
  | .logLevel => ["log_level"]
  | .maxWorkers => ["offload", "max_workers"]
  | .enforceFeatures => ["dispatch", "enforce_features"]
  | .defaultTimeout => ["dispatch", "default_timeout_seconds"]
  | .eventCapacity => ["events", "capacity"]
  | .statePath => ["state", "path"]
  | .flushInterval => ["state", "flush_interval_seconds"]
  | .targets => ["targets"]

/-- The type of what is set. -/
abbrev Content : Key → Type
  | .logLevel => String
  | .maxWorkers => Nat
  | .enforceFeatures => Bool
  | .defaultTimeout => Option Nat
  | .eventCapacity => Nat
  | .statePath => Option String
  | .flushInterval => Nat
  | .targets => List TargetConfig

/-- What is set in some settings. -/
def of : (key : Key) → Settings → key.Content
  | .logLevel, s => s.logLevel
  | .maxWorkers, s => s.maxWorkers
  | .enforceFeatures, s => s.dispatch.enforceFeatures
  | .defaultTimeout, s => s.dispatch.defaultTimeoutSeconds
  | .eventCapacity, s => s.eventCapacity
  | .statePath, s => s.state.path
  | .flushInterval, s => s.state.flushIntervalSeconds
  | .targets, s => s.targets

/-- Reads a value as the type of what is set. -/
def read : (key : Key) → Value → Reading key.Content
  | .logLevel, v => v.spelled.asText
  | .maxWorkers, v => v.spelled.asNat "usize"
  | .enforceFeatures, v => v.spelled.asBool
  | .defaultTimeout, v => v.spelled.asOption (Value.asNat "u64")
  | .eventCapacity, v => v.spelled.asNat "usize"
  | .statePath, v => v.spelled.asOption Value.asPath
  | .flushInterval, v => v.spelled.asNat "u64"
  | .targets, v => v.spelled.asList TargetConfig.ofValue

/-- Reads a value at its place. -/
def readAt (key : Key) (v : Value) : Reading key.Content :=
  key.path.foldr Reading.under (key.read v)

end Key

/-- Reads the settings from a value for each key, in the order of the keys. -/
def assemble (value : Key → Value) : Reading Settings := do
  let defaultTimeout ← Key.defaultTimeout.readAt (value .defaultTimeout)
  let enforceFeatures ← Key.enforceFeatures.readAt (value .enforceFeatures)
  let eventCapacity ← Key.eventCapacity.readAt (value .eventCapacity)
  let logLevel ← Key.logLevel.readAt (value .logLevel)
  let maxWorkers ← Key.maxWorkers.readAt (value .maxWorkers)
  let flushInterval ← Key.flushInterval.readAt (value .flushInterval)
  let statePath ← Key.statePath.readAt (value .statePath)
  let targets ← Key.targets.readAt (value .targets)
  return ⟨logLevel, maxWorkers, ⟨enforceFeatures, defaultTimeout⟩, eventCapacity, ⟨statePath, flushInterval⟩, targets⟩

/-- The names of the sections. -/
def sections : List String := ["dispatch", "events", "offload", "state"]

/-- Whether a value is an object with all sections, in each of them an object, and so with a value for every key. -/
structure IsWhole (value : Key → Value) (fields : List (String × Value)) : Prop where
  rising : Keyed.Rising fields
  sectioned : ∀ name ∈ sections, ∃ inner, Keyed.get? name fields = some (.object inner) ∧ Keyed.Rising inner
  complete : ∀ key : Key, (Value.object fields).at? key.path = some (value key)

/-! ## Reading a section -/

section Sections

variable {inner : List (String × Value)} {source : Source}

/-- A section with one number is read by reading the number. -/
theorem readCount_object (hrising : Keyed.Rising inner) {title field : String} {v : Value} (hv : Keyed.get? field inner = some v) :
    readCount source title field (.object inner) = Reading.under field (v.spelled.asNat "usize") := by
  rw [readCount, RecordReader.read_object_of_complete rfl hrising [field] (List.pairwise_singleton _ _) (fun _ => Iff.rfl)
    (by simp [hv])]
  simp only [List.foldlM_cons, List.foldlM_nil, hv, Option.getD_some]
  cases v.spelled.asNat "usize" <;> rfl

/-- The section on calls is read by reading its two keys. -/
theorem read_dispatch_object (hrising : Keyed.Rising inner) {timeout enforce : Value}
    (htimeout : Keyed.get? "default_timeout_seconds" inner = some timeout)
    (henforce : Keyed.get? "enforce_features" inner = some enforce) :
    dispatchReader.read source {} (.object inner) = do
      let t ← Reading.under "default_timeout_seconds" (Key.defaultTimeout.read timeout)
      let e ← Reading.under "enforce_features" (Key.enforceFeatures.read enforce)
      return ⟨e, t⟩ := by
  rw [RecordReader.read_object_of_complete rfl hrising ["default_timeout_seconds", "enforce_features"] (by decide)
    (by simp [dispatchReader, or_comm]) (by simp [htimeout, henforce])]
  simp only [List.foldlM_cons, List.foldlM_nil, htimeout, henforce, Option.getD_some, dispatchReader, Key.read]
  cases timeout.spelled.asOption (Value.asNat "u64") with
  | error f => rfl
  | ok t => cases enforce.spelled.asBool <;> rfl

/-- The section on activations is read by reading its two keys. -/
theorem readState_object (hrising : Keyed.Rising inner) {interval path : Value}
    (hinterval : Keyed.get? "flush_interval_seconds" inner = some interval) (hpath : Keyed.get? "path" inner = some path) :
    readState source (.object inner) = do
      let i ← Reading.under "flush_interval_seconds" (Key.flushInterval.read interval)
      let p ← Reading.under "path" (Key.statePath.read path)
      return ⟨p, i⟩ := by
  rw [readState, RecordReader.read_object_of_complete rfl hrising ["flush_interval_seconds", "path"] (by decide)
    (by simp [stateReader, or_comm]) (by simp [hinterval, hpath])]
  simp only [List.foldlM_cons, List.foldlM_nil, hinterval, hpath, Option.getD_some, stateReader, Key.read]
  cases interval.spelled.asNat "u64" with
  | error f => rfl
  | ok i => cases path.spelled.asOption Value.asPath <;> rfl

end Sections

/-! ## Reading the whole -/

variable {value : Key → Value} {fields : List (String × Value)}

/-- A section of a value that has everything. -/
theorem IsWhole.exists_inner (h : IsWhole value fields) (name : String) (hname : name ∈ sections) :
    ∃ inner, Keyed.get? name fields = some (.object inner) ∧ Keyed.Rising inner ∧
      ∀ (key : Key) (field : String), key.path = [name, field] → Keyed.get? field inner = some (value key) := by
  obtain ⟨inner, hinner, hrising⟩ := h.sectioned name hname
  refine ⟨inner, hinner, hrising, fun key field hpath => ?_⟩
  have hv := h.complete key
  rw [hpath, Value.at?, Value.field?, hinner] at hv
  obtain ⟨w, hw, hv⟩ := Option.bind_eq_some_iff.mp (show (Keyed.get? field inner).bind (Value.at? []) = _ from hv)
  rw [hw]
  exact hv

/-- A key outside the sections of a value that has everything. -/
theorem IsWhole.get?_eq (h : IsWhole value fields) (key : Key) {field : String} (hpath : key.path = [field]) :
    Keyed.get? field fields = some (value key) := by
  have hv := h.complete key
  rw [hpath] at hv
  obtain ⟨w, hw, hv⟩ := Option.bind_eq_some_iff.mp hv
  exact hw.trans hv

/-- A value that has everything is read by reading what stands under each key. -/
theorem ofValue_of_isWhole (h : IsWhole value fields) (source : Source) : ofValue source (.object fields) = assemble value := by
  obtain ⟨dispatch, hdispatch, hrdispatch, hindispatch⟩ := h.exists_inner "dispatch" (by decide)
  obtain ⟨events, hevents, hrevents, hinevents⟩ := h.exists_inner "events" (by decide)
  obtain ⟨offload, hoffload, hroffload, hinoffload⟩ := h.exists_inner "offload" (by decide)
  obtain ⟨state, hstate, hrstate, hinstate⟩ := h.exists_inner "state" (by decide)
  have hlevel := h.get?_eq .logLevel rfl
  have htargets := h.get?_eq .targets rfl
  have hobject (inner : List (String × Value)) : (Value.object inner).spelled = .object inner := rfl
  have hsettargets (d : Draft) (v : Value) :
      (reader source).set d "targets" v = do return { d with targets := ← v.asList TargetConfig.ofValue } := rfl
  rw [ofValue, RecordReader.read_object_of_complete rfl h.rising ["dispatch", "events", "log_level", "offload", "state", "targets"]
    (by decide) (by simp [reader]; grind) (by simp [*]), assemble]
  simp only [List.foldlM_cons, List.foldlM_nil, hdispatch, hevents, hoffload, hstate, hlevel, htargets, Option.getD_some, hsettargets]
  simp only [reader, hobject, readCount_object hrevents (hinevents .eventCapacity _ rfl),
    readCount_object hroffload (hinoffload .maxWorkers _ rfl),
    read_dispatch_object hrdispatch (hindispatch .defaultTimeout _ rfl) (hindispatch .enforceFeatures _ rfl),
    readState_object hrstate (hinstate .flushInterval _ rfl) (hinstate .statePath _ rfl), Key.readAt, Key.path, List.foldr, Key.read]
  rcases (value .defaultTimeout).spelled.asOption (Value.asNat "u64") with _ | _
  · rfl
  rcases (value .enforceFeatures).spelled.asBool with _ | _
  · rfl
  rcases (value .eventCapacity).spelled.asNat "usize" with _ | _
  · rfl
  rcases (value .logLevel).spelled.asText with _ | _
  · rfl
  rcases (value .maxWorkers).spelled.asNat "usize" with _ | _
  · rfl
  rcases (value .flushInterval).spelled.asNat "u64" with _ | _
  · rfl
  rcases (value .statePath).spelled.asOption Value.asPath with _ | _
  · rfl
  rcases (value .targets).spelled.asList TargetConfig.ofValue with _ | _
  · rfl
  · rfl

/-! ## What fits -/

/-- A value is read at its place if it is read at all. -/
theorem Key.readAt_eq_ok_iff {key : Key} {v : Value} {a : key.Content} : key.readAt v = .ok a ↔ key.read v = .ok a := by
  rw [readAt]
  induction key.path with
  | nil => exact Iff.rfl
  | cons name rest ih => exact Reading.under_eq_ok_iff.trans ih

/-- Settings are read if every value fits the type of its key, and hold what the values are read as. -/
theorem assemble_eq_ok_iff {s : Settings} : assemble value = .ok s ↔ ∀ key : Key, key.read (value key) = .ok (key.of s) := by
  simp only [assemble, Reading.bind_eq_ok_iff]
  constructor
  · rintro ⟨_, hdefaultTimeout, _, henforceFeatures, _, heventCapacity, _, hlogLevel, _, hmaxWorkers, _, hflushInterval, _, hstatePath,
      _, htargets, hs⟩
    obtain rfl := Except.ok.inj hs
    intro key
    cases key with
    | defaultTimeout => exact Key.readAt_eq_ok_iff.mp hdefaultTimeout
    | enforceFeatures => exact Key.readAt_eq_ok_iff.mp henforceFeatures
    | eventCapacity => exact Key.readAt_eq_ok_iff.mp heventCapacity
    | logLevel => exact Key.readAt_eq_ok_iff.mp hlogLevel
    | maxWorkers => exact Key.readAt_eq_ok_iff.mp hmaxWorkers
    | flushInterval => exact Key.readAt_eq_ok_iff.mp hflushInterval
    | statePath => exact Key.readAt_eq_ok_iff.mp hstatePath
    | targets => exact Key.readAt_eq_ok_iff.mp htargets
  · intro h
    have hat (key : Key) : key.readAt (value key) = .ok (key.of s) := Key.readAt_eq_ok_iff.mpr (h key)
    exact ⟨_, hat .defaultTimeout, _, hat .enforceFeatures, _, hat .eventCapacity, _, hat .logLevel, _, hat .maxWorkers,
      _, hat .flushInterval, _, hat .statePath, _, hat .targets, rfl⟩

/-- An object fits no key. -/
theorem Key.read_object_ne_ok {key : Key} {fields : List (String × Value)} {a : key.Content} : key.read (.object fields) ≠ .ok a := by
  cases key <;> exact nofun

/-- Of values that are alike one fits a key as the other does. -/
theorem Key.read_eq_ok_iff_of_alike {key : Key} {v w : Value} (h : Value.Alike v w) {a : key.Content} :
    key.read v = .ok a ↔ key.read w = .ok a := by
  rcases h with rfl | ⟨⟨fields, rfl⟩, fields', rfl⟩
  · exact Iff.rfl
  · exact ⟨fun h => absurd h read_object_ne_ok, fun h => absurd h read_object_ne_ok⟩

end Settings

/-! ## What is told -/

/-- What is told of a fault in the settings. -/
def Fault.told (f : Fault) : List String × String :=
  (f.path, f.message .settings)

namespace Reading

variable {α β : Type}

/-- What is told of a reading under a key is what is told of the reading. -/
theorem told_under {x y : Reading α} (h : x.mapError Fault.told = y.mapError Fault.told) (key : String) :
    (under key x).mapError Fault.told = (under key y).mapError Fault.told := by
  cases x with
  | ok a =>
    cases y with
    | ok b => exact h
    | error g => cases h
  | error f =>
    cases y with
    | ok b => cases h
    | error g =>
      obtain ⟨hpath, hmessage⟩ := Prod.mk.inj (Except.error.inj h)
      have hkey : key :: f.path = key :: g.path := congrArg _ hpath
      exact congrArg Except.error (Prod.ext hkey hmessage)

/-- What is told of one reading after another is what is told of the two. -/
theorem told_bind {x y : Reading α} {f g : α → Reading β} (h : x.mapError Fault.told = y.mapError Fault.told)
    (hthen : ∀ a, (f a).mapError Fault.told = (g a).mapError Fault.told) :
    (x >>= f).mapError Fault.told = (y >>= g).mapError Fault.told := by
  cases x with
  | ok a =>
    cases y with
    | ok b =>
      obtain rfl := Except.ok.inj h
      exact hthen a
    | error g => cases h
  | error f =>
    cases y with
    | ok b => cases h
    | error g => exact congrArg Except.error (Except.error.inj h)

end Reading

namespace Settings

/-- Of values that are alike the same is told at a key. -/
theorem Key.told_readAt {key : Key} {v w : Value} (h : Value.Alike v w) :
    (key.readAt v).mapError Fault.told = (key.readAt w).mapError Fault.told := by
  have hread : (key.read v).mapError Fault.told = (key.read w).mapError Fault.told := by
    rcases h with rfl | ⟨⟨fields, rfl⟩, fields', rfl⟩
    · rfl
    · cases key <;> rfl
  rw [readAt, readAt]
  induction key.path with
  | nil => exact hread
  | cons name rest ih => exact Reading.told_under ih name

/-- Of values that are alike under every key the same settings are read, or the same is told. -/
theorem told_assemble {value value' : Key → Value} (h : ∀ key, Value.Alike (value key) (value' key)) :
    (assemble value).mapError Fault.told = (assemble value').mapError Fault.told := by
  refine Reading.told_bind (Key.told_readAt (h .defaultTimeout)) fun _ => ?_
  refine Reading.told_bind (Key.told_readAt (h .enforceFeatures)) fun _ => ?_
  refine Reading.told_bind (Key.told_readAt (h .eventCapacity)) fun _ => ?_
  refine Reading.told_bind (Key.told_readAt (h .logLevel)) fun _ => ?_
  refine Reading.told_bind (Key.told_readAt (h .maxWorkers)) fun _ => ?_
  refine Reading.told_bind (Key.told_readAt (h .flushInterval)) fun _ => ?_
  refine Reading.told_bind (Key.told_readAt (h .statePath)) fun _ => ?_
  exact Reading.told_bind (Key.told_readAt (h .targets)) fun _ => rfl

end Settings

end Herald
