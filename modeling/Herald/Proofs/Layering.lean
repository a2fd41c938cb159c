import Mathlib
import Herald.Proofs.KeyReading
import Herald.Settings.Load

/-!
# The highest layer counts

The settings come from the command line, the environment, a file and a preset. Under each key the first of these counts that sets it
(`Settings.winner`), provided that the sections are tables wherever they occur. Nothing else of a layer is used
(`Settings.layers_count_key_by_key`).
-/

namespace Herald

namespace CommandLine

/-- What the options of a command line set. -/
def setting? (c : CommandLine) : Settings.Key → Option Value
  | .logLevel => c.logLevel.map .text
  | .maxWorkers => c.maxWorkers.map .unsigned
  | .statePath => c.statePath.map .text
  | _ => none

end CommandLine

namespace Environment

/-- The variables that are settings, each as a layer of its own. -/
def layers (environment : List (String × String)) : List Value :=
  environment.filterMap fun (name, text) => (keys? name).map fun keys => nested keys (value text)

/-- What an environment sets at the end of a path. The last variable counts that has a value there. -/
def setting? (environment : List (String × String)) (path : List String) : Option Value :=
  (layers environment).reverse.findSome? (Value.at? path)

end Environment

namespace Settings

/-- Whether the sections of a layer are tables. -/
def IsSectioned (v : Value) : Prop :=
  ∀ name ∈ sections, ∀ w, v.field? name = some w → ∃ inner, w = .object inner

/-- What stands under a key if no layer sets it, on a machine with so many processors. -/
def preset (processors : Nat) : Key → Value
  | .logLevel => .text "info"
  | .maxWorkers => .unsigned (max 1 processors)
  | .enforceFeatures => .bool false
  | .defaultTimeout => .unsigned 30
  | .eventCapacity => .unsigned 1024
  | .statePath => .null
  | .flushInterval => .unsigned 5
  | .targets => .list []

/-- The value that counts under a key: that of the first layer that sets it, from the command line down. -/
def winner (processors : Nat) (file : Value) (environment : List (String × String)) (c : CommandLine) (key : Key) : Value :=
  (c.setting? key).getD <|
    (Environment.setting? environment key.path).getD <|
      (file.at? key.path).getD (preset processors key)

/-! ## The layers -/

/-- A path of a key leads through the objects of a layer whose sections are tables. -/
theorem IsSectioned.isTabled {fields : List (String × Value)} (h : IsSectioned (.object fields)) (key : Key) :
    Value.IsTabled key.path (.object fields) := by
  have hleaf (name : String) : Value.IsTabled [name] (.object fields) := ⟨⟨fields, rfl⟩, fun _ _ => trivial⟩
  have hsection {name : String} (hname : name ∈ sections) (field : String) : Value.IsTabled [name, field] (.object fields) := by
    refine ⟨⟨fields, rfl⟩, fun w hw => ?_⟩
    obtain ⟨inner, rfl⟩ := h name hname w hw
    exact ⟨⟨inner, rfl⟩, fun _ _ => trivial⟩
  cases key with
  | logLevel => exact hleaf _
  | targets => exact hleaf _
  | _ => exact hsection (by decide) _

/-- The sections of a layer are tables if the paths of all keys lead through objects. -/
theorem isSectioned_of_isTabled {v : Value} (h : ∀ key : Key, Value.IsTabled key.path v) : IsSectioned v := by
  intro name hname w hw
  simp only [sections, List.mem_cons, List.not_mem_nil, or_false] at hname
  rcases hname with rfl | rfl | rfl | rfl
  · exact ((h .enforceFeatures).2 w hw).1
  · exact ((h .eventCapacity).2 w hw).1
  · exact ((h .maxWorkers).2 w hw).1
  · exact ((h .statePath).2 w hw).1

/-- The sections of a layer are tables if they are wherever they are listed. -/
theorem isSectioned_of_forall {fields : List (String × Value)} (h : ∀ p ∈ fields, p.1 ∈ sections → ∃ inner, p.2 = .object inner) :
    IsSectioned (.object fields) :=
  fun _ hname w hw => h (_, w) (Keyed.mem_of_get? hw) hname

/-- The layer of a command line in the order of its keys. -/
theorem layer_commandLine (c : CommandLine) :
    c.layer = .object ((c.logLevel.map fun s => ("log_level", Value.text s)).toList ++
      (c.maxWorkers.map fun n => ("offload", Value.object [("max_workers", .unsigned n)])).toList ++
      (c.statePath.map fun s => ("state", Value.object [("path", .text s)])).toList) := by
  refine congrArg Value.object (Keyed.ofList_of_rising ?_)
  rw [Keyed.Rising]
  cases c.logLevel <;> cases c.maxWorkers <;> cases c.statePath <;>
    simp only [Option.map_none, Option.map_some, Option.toList_none, Option.toList_some, List.append_nil, List.nil_append,
      List.cons_append, List.pairwise_cons, List.Pairwise.nil, List.mem_cons, List.not_mem_nil, or_false, forall_eq_or_imp, forall_eq,
      IsEmpty.forall_iff, implies_true, String.reduceLT, and_self]

/-- The layer of a command line has its settings. -/
theorem at?_commandLine (c : CommandLine) (key : Key) : c.layer.at? key.path = c.setting? key := by
  rw [layer_commandLine]
  obtain ⟨config, logLevel, maxWorkers, statePath, command⟩ := c
  cases logLevel <;> cases maxWorkers <;> cases statePath <;> cases key <;> rfl

/-- The sections of the layer of a command line are tables. -/
theorem isSectioned_commandLine (c : CommandLine) : IsSectioned c.layer := by
  rw [layer_commandLine]
  refine isSectioned_of_forall fun p hp hname => ?_
  simp only [List.mem_append, Option.mem_toList, Option.map_eq_some_iff] at hp
  rcases hp with (⟨_, -, rfl⟩ | ⟨_, -, rfl⟩) | ⟨_, -, rfl⟩
  · simp [sections] at hname
  · exact ⟨_, rfl⟩
  · exact ⟨_, rfl⟩

/-- The layer of a file is an object. -/
theorem exists_fields_of_fileLayer {files : Files} {config : Option String} {file : Value} (h : fileLayer files config = .ok file) :
    ∃ fields, file = .object fields := by
  unfold fileLayer at h
  split at h
  · exact ⟨[], (Except.ok.inj h).symm⟩
  · split at h
    · cases h
    · split at h
      · exact ⟨[], (Except.ok.inj h).symm⟩
      · split at h
        · next text _ v hv =>
          obtain rfl := Except.ok.inj h
          obtain ⟨draft, _, hv⟩ := Option.bind_eq_some_iff.mp hv
          exact ⟨_, (Option.some.inj hv).symm⟩
        · cases h

/-- A name that is split has parts. -/
theorem splitKeys_ne_nil (cs : List Char) : Environment.splitKeys cs ≠ [] := by
  fun_cases Environment.splitKeys cs with
  | case1 => exact nofun
  | case2 => exact nofun
  | case3 => exact nofun
  | case4 => exact nofun
  | case5 => exact nofun

/-- The name of a variable leads somewhere. -/
theorem keys?_ne_nil {name : String} {keys : List String} (h : Environment.keys? name = some keys) : keys ≠ [] := by
  rw [Environment.keys?] at h
  dsimp only at h
  split at h
  · split at h
    · cases h
    · obtain rfl := Option.some.inj h
      exact fun hnil => splitKeys_ne_nil _ (List.map_eq_nil_iff.mp hnil)
  · cases h

/-- The layer of a variable is an object. -/
theorem exists_fields_of_layers {environment : List (String × String)} {v : Value} (h : v ∈ Environment.layers environment) :
    ∃ fields, v = .object fields := by
  obtain ⟨⟨name, text⟩, _, hv⟩ := List.mem_filterMap.mp h
  obtain ⟨keys, hkeys, rfl⟩ := Option.map_eq_some_iff.mp hv
  obtain ⟨key, rest, rfl⟩ := List.exists_cons_of_ne_nil (keys?_ne_nil hkeys)
  exact ⟨_, rfl⟩

/-! ## The standard settings -/

/-- The standard settings as an object. -/
theorem toValue_standard (processors : Nat) : (standard processors).toValue = .object [
    ("dispatch", .object [("default_timeout_seconds", .unsigned 30), ("enforce_features", .bool false)]),
    ("events", .object [("capacity", .unsigned 1024)]),
    ("log_level", .text "info"),
    ("offload", .object [("max_workers", .unsigned (max 1 processors))]),
    ("state", .object [("flush_interval_seconds", .unsigned 5), ("path", .null)]),
    ("targets", .list [])] := by
  simp only [toValue, standard, Value.ofFields, Value.ofNat?, Value.ofText?, Keyed.ofList, Keyed.insert, List.map_nil, List.foldl_nil,
    List.foldl_cons, String.reduceLT, String.reduceEq, ↓reduceIte]

/-- The standard settings have the preset under each key. -/
theorem at?_standard (processors : Nat) (key : Key) : (standard processors).toValue.at? key.path = some (preset processors key) := by
  rw [toValue_standard]
  cases key <;> rfl

/-- Whether a value is an object with all sections, in each of them an object, and all of them in order. -/
def HasSections (v : Value) : Prop :=
  ∃ fields, v = .object fields ∧ Keyed.Rising fields ∧
    ∀ name ∈ sections, ∃ inner, Keyed.get? name fields = some (.object inner) ∧ Keyed.Rising inner

/-- The standard settings have all sections. -/
theorem hasSections_standard (processors : Nat) : HasSections (standard processors).toValue := by
  refine ⟨_, toValue_standard processors, ?_, ?_⟩
  · simp only [Keyed.Rising, List.pairwise_cons, List.Pairwise.nil, List.mem_cons, List.not_mem_nil, or_false, forall_eq_or_imp, forall_eq,
      IsEmpty.forall_iff, implies_true, String.reduceLT, and_self]
  · intro name hname
    simp only [sections, List.mem_cons, List.not_mem_nil, or_false] at hname
    rcases hname with rfl | rfl | rfl | rfl <;> refine ⟨_, rfl, ?_⟩ <;>
      simp only [Keyed.Rising, List.pairwise_cons, List.Pairwise.nil, List.mem_cons, List.not_mem_nil, or_false, forall_eq,
        IsEmpty.forall_iff, implies_true, String.reduceLT, and_self]

/-- The paths of all keys lead through the objects of a value with all sections. -/
theorem HasSections.isTabled {v : Value} (h : HasSections v) (key : Key) : Value.IsTabled key.path v := by
  obtain ⟨fields, rfl, -, hinner⟩ := h
  refine IsSectioned.isTabled (fun name hname w hw => ?_) key
  obtain ⟨inner, hget, -⟩ := hinner name hname
  rw [Value.field?, hget] at hw
  exact ⟨inner, (Option.some.inj hw).symm⟩

/-- A layer with tables for sections that is laid over all sections leaves all sections. -/
theorem HasSections.overlay {base value : Value} (h : HasSections base) (htabled : ∀ key : Key, Value.IsTabled key.path value) :
    HasSections (base.overlay value) := by
  obtain ⟨earlier, rfl, hrising, hinner⟩ := h
  obtain ⟨fields, rfl⟩ : ∃ fields, value = .object fields := (htabled .logLevel).1
  refine ⟨Value.overlayFields earlier fields, by rw [Value.overlay], Value.rising_overlayFields hrising fields, fun name hname => ?_⟩
  obtain ⟨inner, hget, hr⟩ := hinner name hname
  rw [Value.get?_overlayFields, hget]
  cases hf : Keyed.get? name fields with
  | none => exact ⟨inner, rfl, hr⟩
  | some w =>
    obtain ⟨later, rfl⟩ := isSectioned_of_isTabled htabled name hname w hf
    exact ⟨Value.overlayFields inner later, by rw [Value.overlay?, Value.overlay], Value.rising_overlayFields hr later⟩

/-! ## All layers -/

/-- The paths of all keys lead through the objects of an environment whose variables leave the sections tables. -/
theorem isTabled_environment {environment : List (String × String)} (h : ∀ v ∈ Environment.layers environment, IsSectioned v)
    (key : Key) : Value.IsTabled key.path (Environment.layer environment) := by
  refine Value.isTabled_layered fun v hv => ?_
  obtain ⟨fields, rfl⟩ := exists_fields_of_layers hv
  exact (h _ hv).isTabled key

/-- What an environment has under a key is like what counts of it, or joined with it. -/
theorem rel_environment {environment : List (String × String)} (h : ∀ v ∈ Environment.layers environment, IsSectioned v) (key : Key) :
    Option.Rel Value.Alike ((Environment.layer environment).at? key.path) (Environment.setting? environment key.path) := by
  refine Value.at?_layered (by cases key <;> exact List.cons_ne_nil _ _) fun v hv => ?_
  obtain ⟨fields, rfl⟩ := exists_fields_of_layers hv
  exact (h _ hv).isTabled key

/-- Layers over the standard settings, one after the other. -/
theorem layered_standard (processors : Nat) (file environment options : Value) :
    Value.layered [(standard processors).toValue, file, environment, options] =
      (((standard processors).toValue.overlay file).overlay environment).overlay options := by
  have hbase : Value.overlay (.object []) (standard processors).toValue = (standard processors).toValue := by
    rw [toValue_standard]
    simp only [Value.overlay, Value.overlayFields, Keyed.insert, Keyed.get?, String.reduceLT, ↓reduceIte]
  rw [Value.layered, List.foldl_cons, hbase]
  rfl

section Load

variable {processors : Nat} {files : Files} {environment : List (String × String)} {c : CommandLine} {file : Value}

/-- Of values that may be missing, the first counts that is there. -/
theorem or_or_some (first second third : Option Value) (v : Value) :
    first.or (second.or (third.or (some v))) = some (first.getD (second.getD (third.getD v))) := by
  cases first <;> cases second <;> cases third <;> rfl

/-- Layers with tables for sections have everything, and under each key what counts, or objects instead of an object that counts. -/
theorem exists_isWhole (hfile : ∃ fields, file = .object fields) (hsectioned : IsSectioned file)
    (hvariables : ∀ v ∈ Environment.layers environment, IsSectioned v) :
    ∃ fields value, Value.layered [(standard processors).toValue, file, Environment.layer environment, c.layer] = .object fields ∧
      IsWhole value fields ∧ ∀ key, Value.Alike (value key) (winner processors file environment c key) := by
  have hstandard := hasSections_standard processors
  have htabledfile : ∀ key : Key, Value.IsTabled key.path file := by
    obtain ⟨fields, rfl⟩ := hfile
    exact hsectioned.isTabled
  have htabledenv := isTabled_environment hvariables
  have htabledcommand : ∀ key : Key, Value.IsTabled key.path c.layer := by
    have hcommand := isSectioned_commandLine c
    rw [layer_commandLine] at hcommand ⊢
    exact hcommand.isTabled
  have hoverfile := hstandard.overlay htabledfile
  have hoverenv := hoverfile.overlay htabledenv
  have hall := hoverenv.overlay htabledcommand
  have hat (key : Key) : Option.Rel Value.Alike
      (Value.at? key.path ((((standard processors).toValue.overlay file).overlay (Environment.layer environment)).overlay c.layer))
      (some (winner processors file environment c key)) := by
    rw [Value.at?_overlay (hoverenv.isTabled key) (htabledcommand key), Value.at?_overlay (hoverfile.isTabled key) (htabledenv key),
      Value.at?_overlay (hstandard.isTabled key) (htabledfile key), at?_standard, at?_commandLine, winner, ← or_or_some]
    exact Value.rel_overlay? (Value.rel_overlay? (Value.rel_overlay? (.some (.refl _)) (Value.Alike.rel_refl _))
      (rel_environment hvariables key)) (Value.Alike.rel_refl _)
  rw [layered_standard]
  obtain ⟨fields, hfields, hrising, hinner⟩ := hall
  rw [hfields] at hat ⊢
  have hvalue (key : Key) : ∃ v, Value.at? key.path (.object fields) = some v ∧ v.Alike (winner processors file environment c key) := by
    have h := hat key
    cases hv : Value.at? key.path (.object fields) with
    | none =>
      rw [hv] at h
      cases h
    | some v =>
      rw [hv] at h
      cases h with
      | some halike => exact ⟨v, rfl, halike⟩
  choose value hcomplete halike using hvalue
  exact ⟨fields, value, rfl, ⟨hrising, hinner, hcomplete⟩, halike⟩

end Load

/-! ## Loading -/

/-- Settings that were read, or why they are not used. -/
def checked : Reading Settings → Except LoadError Settings
  | .error fault => .error (.unfit fault)
  | .ok settings =>
    match settings.defect? with
    | some defect => .error (.defective defect)
    | none => .ok settings

/-- The settings have no defect if there are workers and the interval is not empty. -/
theorem defect?_eq_none_iff {s : Settings} : s.defect? = none ↔ 1 ≤ s.maxWorkers ∧ 1 ≤ s.state.flushIntervalSeconds := by
  rw [defect?]
  split
  · next h => simp [h]
  · split
    · next h => simp [h]
    · next h h' => simp; omega

/-- Settings are used if they were read and have no defect. -/
theorem checked_eq_ok_iff {reading : Reading Settings} {s : Settings} :
    checked reading = .ok s ↔ reading = .ok s ∧ 1 ≤ s.maxWorkers ∧ 1 ≤ s.state.flushIntervalSeconds := by
  rw [← defect?_eq_none_iff]
  cases reading with
  | error fault =>
    constructor
    · intro h
      cases h
    · rintro ⟨h, -⟩
      cases h
  | ok settings =>
    rw [checked]
    split
    · next defect hd =>
      constructor
      · intro h
        cases h
      · rintro ⟨h, hnone⟩
        obtain rfl := Except.ok.inj h
        rw [hd] at hnone
        cases hnone
    · next hd =>
      constructor
      · intro h
        obtain rfl := Except.ok.inj h
        exact ⟨rfl, hd⟩
      · exact fun h => congrArg _ (Except.ok.inj h.1)

/-- The wording of a load that failed for a value is what is told of the fault. -/
theorem message_unfit (fault : Fault) :
    (LoadError.unfit fault).message =
      if fault.told.1.isEmpty then fault.told.2 else fault.told.2 ++ " for key \"" ++ ".".intercalate fault.told.1 ++ "\"" :=
  rfl

/-- Where the same is told of two readings, the same comes of them. -/
theorem message_checked {reading reading' : Reading Settings} (h : reading.mapError Fault.told = reading'.mapError Fault.told) :
    (checked reading).mapError LoadError.message = (checked reading').mapError LoadError.message := by
  cases reading with
  | ok settings =>
    cases reading' with
    | ok settings' =>
      obtain rfl := Except.ok.inj h
      rfl
    | error fault => cases h
  | error fault =>
    cases reading' with
    | ok settings' => cases h
    | error fault' =>
      have htold : fault.told = fault'.told := Except.error.inj h
      have hunfit : (LoadError.unfit fault).message = (LoadError.unfit fault').message := by
        rw [message_unfit, message_unfit, htold]
      exact congrArg Except.error hunfit

section Load

variable {processors : Nat} {files : Files} {environment : List (String × String)} {c : CommandLine} {file : Value}

/-- Loading reads the layers laid over one another, and checks what is read. -/
theorem load_eq (hfile : fileLayer files c.config = .ok file) :
    load processors files environment c =
      checked (ofValue .settings (Value.layered [(standard processors).toValue, file, Environment.layer environment, c.layer])) := by
  rw [load, hfile]
  simp only [bind, Except.bind]
  cases ofValue .settings (Value.layered [(standard processors).toValue, file, Environment.layer environment, c.layer]) <;> rfl

/-- Loading reads a value for each key that is like the one that counts, or an object as it is. -/
theorem exists_load_eq (hfile : fileLayer files c.config = .ok file) (hsectioned : IsSectioned file)
    (hvariables : ∀ v ∈ Environment.layers environment, IsSectioned v) :
    ∃ value, load processors files environment c = checked (assemble value) ∧
      ∀ key, Value.Alike (value key) (winner processors file environment c key) := by
  obtain ⟨fields, value, hlayered, hwhole, halike⟩ := exists_isWhole (exists_fields_of_fileLayer hfile) hsectioned hvariables
  exact ⟨value, by rw [load_eq hfile, hlayered, ofValue_of_isWhole hwhole], halike⟩

/-- Settings are loaded if what counts under each key fits it and there is no defect. -/
theorem load_eq_ok_iff (hfile : fileLayer files c.config = .ok file) (hsectioned : IsSectioned file)
    (hvariables : ∀ v ∈ Environment.layers environment, IsSectioned v) {s : Settings} :
    load processors files environment c = .ok s ↔
      (∀ key : Key, key.read (winner processors file environment c key) = .ok (key.of s)) ∧
        1 ≤ s.maxWorkers ∧ 1 ≤ s.state.flushIntervalSeconds := by
  obtain ⟨value, hload, halike⟩ := exists_load_eq hfile hsectioned hvariables
  rw [hload, checked_eq_ok_iff, assemble_eq_ok_iff]
  exact and_congr_left' (forall_congr' fun key => Key.read_eq_ok_iff_of_alike (halike key))

/-- Two loads in which the same counts under each key come to the same. -/
theorem load_of_winner_eq {files' : Files} {environment' : List (String × String)} {file' : Value}
    (hfile : fileLayer files c.config = .ok file) (hsectioned : IsSectioned file)
    (hvariables : ∀ v ∈ Environment.layers environment, IsSectioned v)
    (hfile' : fileLayer files' c.config = .ok file') (hsectioned' : IsSectioned file')
    (hvariables' : ∀ v ∈ Environment.layers environment', IsSectioned v)
    (hsame : ∀ key, winner processors file' environment' c key = winner processors file environment c key) :
    (load processors files' environment' c).mapError LoadError.message = (load processors files environment c).mapError LoadError.message := by
  obtain ⟨value, hload, halike⟩ := exists_load_eq hfile hsectioned hvariables
  obtain ⟨value', hload', halike'⟩ := exists_load_eq hfile' hsectioned' hvariables'
  rw [hload, hload']
  exact message_checked (told_assemble fun key => (halike' key).trans (hsame key ▸ (halike key).symm))

/-- What counts under a key is the same for another file and another environment if these have the same there, or something above them
sets it. -/
theorem winner_eq {environment' : List (String × String)} {file' : Value} {key : Key}
    (hsame : c.setting? key = none →
      Environment.setting? environment' key.path = Environment.setting? environment key.path ∧
        (Environment.setting? environment key.path = none → file'.at? key.path = file.at? key.path)) :
    winner processors file' environment' c key = winner processors file environment c key := by
  rw [winner, winner]
  cases hc : c.setting? key with
  | some v => rfl
  | none =>
    obtain ⟨henv, hfile⟩ := hsame hc
    rw [henv]
    cases he : Environment.setting? environment key.path with
    | some v => rfl
    | none => rw [hfile he]

/-- Where sections occur only as tables, settings are loaded exactly if under each key the value of the highest layer that sets it fits
the key, and there are workers and the interval between two flushes is not empty; then the settings hold what these values are read as.
A file and an environment may be changed under any key that a layer above sets: what comes of loading stays the same. -/
theorem layers_count_key_by_key (hfile : fileLayer files c.config = .ok file) (hsectioned : IsSectioned file)
    (hvariables : ∀ v ∈ Environment.layers environment, IsSectioned v) :
    (∀ s, load processors files environment c = .ok s ↔
      (∀ key : Key, key.read (winner processors file environment c key) = .ok (key.of s)) ∧
        1 ≤ s.maxWorkers ∧ 1 ≤ s.state.flushIntervalSeconds) ∧
    (∀ files' file' environment', fileLayer files' c.config = .ok file' → IsSectioned file' →
      (∀ v ∈ Environment.layers environment', IsSectioned v) →
      (∀ key : Key, c.setting? key = none →
        Environment.setting? environment' key.path = Environment.setting? environment key.path ∧
          (Environment.setting? environment key.path = none → file'.at? key.path = file.at? key.path)) →
      (load processors files' environment' c).mapError LoadError.message =
        (load processors files environment c).mapError LoadError.message) := by
  refine ⟨fun s => load_eq_ok_iff hfile hsectioned hvariables, ?_⟩
  intro files' file' environment' hfile' hsectioned' hvariables' hsame
  exact load_of_winner_eq hfile hsectioned hvariables hfile' hsectioned' hvariables' fun key => winner_eq (hsame key)

end Load

/-- The level is a list in the file and a text in the environment, and the number of workers is a truth value in the environment and a
number on the command line. What is hidden may be of any type, or not be there. -/
theorem hidden_values_may_be_of_wrong_types :
    ∃ (files : Files) (c : CommandLine) (s : Settings),
      files.read "f" = .ok "log_level=[]\n[state]\npath='x'" ∧ c.config = some "f" ∧ c.maxWorkers = some 4 ∧
        s = { standard 2 with logLevel := "warn", maxWorkers := 4, state := ⟨some "x", 5⟩ } ∧
        load 2 files [("NOTIFYHUB_OFFLOAD__MAX_WORKERS", "true"), ("NOTIFYHUB_LOG_LEVEL", "\"warn\"")] c = .ok s ∧
        (load 2 files [("NOTIFYHUB_LOG_LEVEL", "\"warn\"")] c).mapError LoadError.message = .ok s := by
  have htoml : Value.ofToml? "log_level=[]\n[state]\npath='x'" =
      some (.object [("log_level", .list []), ("state", .object [("path", .text "x")])]) := by
    cbv
  have hlevel : Environment.layers [("NOTIFYHUB_LOG_LEVEL", "\"warn\"")] = [.object [("log_level", .text "warn")]] := by
    cbv
  have hlayers : Environment.layers [("NOTIFYHUB_OFFLOAD__MAX_WORKERS", "true"), ("NOTIFYHUB_LOG_LEVEL", "\"warn\"")] =
      [.object [("offload", .object [("max_workers", .bool true)])], .object [("log_level", .text "warn")]] := by
    cbv
  let files : Files := { entries := [(["f"], .text "log_level=[]\n[state]\npath='x'")] }
  let c : CommandLine := { config := some "f", maxWorkers := some 4 }
  have hcontains : files.contains "f" = true := by decide
  have hread : files.read "f" = .ok "log_level=[]\n[state]\npath='x'" := by rfl
  have hfile : fileLayer files c.config = .ok (.object [("log_level", .list []), ("state", .object [("path", .text "x")])]) := by
    simp only [fileLayer, c, hcontains, hread, htoml, Bool.not_true, Bool.false_eq_true, if_false]
  have hsectioned : IsSectioned (.object [("log_level", .list []), ("state", .object [("path", .text "x")])]) :=
    isSectioned_of_forall (by simp [sections])
  have hvariables : ∀ v ∈ Environment.layers [("NOTIFYHUB_OFFLOAD__MAX_WORKERS", "true"), ("NOTIFYHUB_LOG_LEVEL", "\"warn\"")],
      IsSectioned v := by
    rw [hlayers]
    intro v hv
    rcases List.mem_pair.mp hv with rfl | rfl <;> exact isSectioned_of_forall (by simp [sections])
  have hvariable : ∀ v ∈ Environment.layers [("NOTIFYHUB_LOG_LEVEL", "\"warn\"")], IsSectioned v := by
    rw [hlevel]
    intro v hv
    rw [List.mem_singleton.mp hv]
    exact isSectioned_of_forall (by simp [sections])
  have hok : load 2 files [("NOTIFYHUB_OFFLOAD__MAX_WORKERS", "true"), ("NOTIFYHUB_LOG_LEVEL", "\"warn\"")] c =
      .ok { standard 2 with logLevel := "warn", maxWorkers := 4, state := ⟨some "x", 5⟩ } := by
    refine ((layers_count_key_by_key hfile hsectioned hvariables).1 _).mpr ⟨fun key => ?_, by decide, by decide⟩
    rw [winner, Environment.setting?, hlayers]
    cases key <;> rfl
  refine ⟨files, c, _, hread, rfl, rfl, rfl, hok, ?_⟩
  refine ((layers_count_key_by_key hfile hsectioned hvariables).2 files _ _ hfile hsectioned hvariable fun key hkey => ?_).trans
    (congrArg (Except.mapError LoadError.message) hok)
  rw [Environment.setting?, Environment.setting?, hlevel, hlayers]
  cases key with
  | maxWorkers => cases hkey
  | _ => exact ⟨rfl, fun _ => rfl⟩

end Settings

end Herald
