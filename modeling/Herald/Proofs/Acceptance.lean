import Herald.Proofs.Assembly
import Herald.Proofs.Digits
import Herald.Proofs.Layering

/-!
# What is accepted and what can be built

Settings are accepted if there is a worker and an interval between two flushes. How many workers there are and how many events are kept is
not bounded from above, whichever layer says it, while the pool and the bus have limits (`Pool.limit`, `Bus.maxCapacity`). Beyond these
building breaks off; within them it gives an application, or tells of a store that cannot be loaded or of an entry at fault
(`App.accepted_settings_are_built_within_limits`).
-/

namespace Herald

/-! ## Numbers in variables -/

namespace Environment

/-- A digit is no blank, ends no text without quotes and is no point. -/
theorem plain_of_isDigit {c : Char} (h : Text.isDigit c = true) : isBlank c = false ∧ isSeparator c = false ∧ c ≠ '.' := by
  simp only [Text.isDigit, Bool.and_eq_true, decide_eq_true_eq, Char.le_def, UInt32.le_iff_toNat_le] at h
  have hlow : 48 ≤ c.toNat := h.1
  have hhigh : c.toNat ≤ 57 := h.2
  have hne {d : Char} (hd : d.toNat < 48 ∨ 57 < d.toNat) : c ≠ d := by
    rintro rfl
    omega
  simp only [isBlank, isSeparator, Bool.or_eq_false_iff, beq_eq_false_iff_ne]
  refine ⟨⟨⟨⟨⟨?_, ?_⟩, ?_⟩, ?_⟩, ?_⟩, ⟨⟨⟨⟨?_, ?_⟩, ?_⟩, ?_⟩, ?_⟩, ?_⟩ <;> exact hne (by decide)

section Digits

variable {text : String} (hne : text.toList ≠ []) (hd : ∀ c ∈ text.toList, Text.isDigit c = true)
  (hfits : Word.fits (Text.natOfDigits text.toList) = true)
include hne hd hfits

/-- Digits without quotes are the number that they write, if it fits a word. -/
theorem bare_of_digits : bare text = .unsigned (Text.natOfDigits text.toList) := by
  have hpoint : text.contains '.' = false := by
    rw [String.contains_char_eq, decide_eq_false_iff_not]
    exact fun hmem => (plain_of_isDigit (hd _ hmem)).2.2 rfl
  have hcount : Written.count? text = some (Text.natOfDigits text.toList) := by
    have hdigits : Written.areDigits text.toList = true := by
      rw [Written.areDigits, Bool.and_eq_true, List.all_eq_true]
      exact ⟨by rw [Bool.not_eq_true', List.isEmpty_eq_false_iff]; exact hne, hd⟩
    unfold Written.count?
    split
    · next rest heq => exact absurd (hd '+' (heq ▸ List.mem_cons_self)) (by decide)
    · simp only [hdigits, hfits, if_true]
  rw [bare, hpoint, hcount]
  rfl

/-- A variable that holds digits has the number that they write, if it fits a word. -/
theorem value_of_digits : value text = .unsigned (Text.natOfDigits text.toList) := by
  have hskip : skipBlanks text.toList = text.toList := by
    obtain ⟨c, cs, hc⟩ := List.exists_cons_of_ne_nil hne
    have hplain : isBlank c = false := (plain_of_isDigit (hd c (hc ▸ List.mem_cons_self))).1
    rw [hc]
    exact List.dropWhile_cons_of_neg (Bool.eq_false_iff.mp hplain)
  have hfirst {c : Char} {cs : List Char} (hc : text.toList = c :: cs) : Text.isDigit c = true := hd c (hc ▸ List.mem_cons_self)
  have htake : text.toList.takeWhile (fun c => !isSeparator c) = text.toList :=
    List.takeWhile_eq_self_iff.mpr fun c hc => by rw [(plain_of_isDigit (hd c hc)).2.1]; rfl
  have htrim : Text.trim text = text := Text.trim_eq_self_iff.mpr (Text.isTrimmed_of_forall fun c hc => Text.isSpace_of_isDigit (hd c hc))
  have hread (fuel : Nat) : readValue (fuel + 1) text.toList = some (bare text, []) := by
    rw [readValue, hskip]
    split
    case h_8 =>
      simp only [htake, String.ofList_toList, htrim, List.drop_length]
      rfl
    -- what stands for itself, is quoted or opens a table or a list does not begin with a digit
    all_goals next heq => exact absurd (hfirst heq) (by decide)
  rw [value, hread, bare_of_digits hne hd hfits]

end Digits

/-- A variable that holds a number as it is written has that number, if it fits a word. -/
theorem value_repr {n : Nat} (hn : Word.fits n = true) : value n.repr = .unsigned n := by
  have hdigits : n.repr.toList = Nat.toDigits 10 n := Nat.toList_repr
  have hnumber : Text.natOfDigits n.repr.toList = n := by rw [hdigits, Text.natOfDigits_toDigits]
  have hall : ∀ c ∈ n.repr.toList, Text.isDigit c = true := fun c hc => Text.isDigit_of_mem_toDigits (hdigits ▸ hc)
  rw [value_of_digits (hdigits ▸ Nat.toDigits_ne_nil) hall (hnumber.symm ▸ hn), hnumber]

end Environment

/-! ## What is accepted -/

namespace Settings

/-- Settings that are accepted have a worker and an interval, whatever layers they come from. -/
theorem positive_of_load {processors : Nat} {files : Files} {environment : List (String × String)} {c : CommandLine}
    {settings : Settings} (h : load processors files environment c = .ok settings) :
    1 ≤ settings.maxWorkers ∧ 1 ≤ settings.state.flushIntervalSeconds := by
  cases hfile : fileLayer files c.config with
  | error e =>
    rw [load, hfile] at h
    cases h
  | ok file =>
    rw [load_eq hfile] at h
    exact (checked_eq_ok_iff.mp h).2

/-- An empty layer has no section that is no table. -/
theorem isSectioned_empty : IsSectioned (.object []) :=
  isSectioned_of_forall fun _ hp => absurd hp List.not_mem_nil

/-- Any number of workers but zero is accepted from the command line. -/
theorem load_maxWorkers (processors : Nat) (files : Files) (command : Option Command) {n : Nat} (hn : 1 ≤ n) :
    load processors files [] { maxWorkers := some n, command } = .ok { standard processors with maxWorkers := n } := by
  have hfile : fileLayer files none = .ok (.object []) := rfl
  have hvariables : ∀ v ∈ Environment.layers [], IsSectioned v := fun v hv => absurd hv List.not_mem_nil
  refine (load_eq_ok_iff hfile isSectioned_empty hvariables).mpr ⟨fun key => ?_, hn, Nat.le_add_left 1 4⟩
  cases key <;> rfl

/-- Any number of events that fits a word is accepted from a variable. -/
theorem load_eventCapacity (processors : Nat) (files : Files) {n : Nat} (hn : Word.fits n = true) :
    load processors files [("NOTIFYHUB_EVENTS__CAPACITY", n.repr)] {} = .ok { standard processors with eventCapacity := n } := by
  have hkeys : Environment.keys? "NOTIFYHUB_EVENTS__CAPACITY" = some ["events", "capacity"] := by cbv
  have hlayers : Environment.layers [("NOTIFYHUB_EVENTS__CAPACITY", n.repr)] =
      [.object [("events", .object [("capacity", .unsigned n)])]] := by
    simp only [Environment.layers, List.filterMap_cons, List.filterMap_nil, hkeys, Option.map_some, Environment.value_repr hn]
    rfl
  have hfile : fileLayer files none = .ok (.object []) := rfl
  have hvariables : ∀ v ∈ Environment.layers [("NOTIFYHUB_EVENTS__CAPACITY", n.repr)], IsSectioned v := by
    rw [hlayers]
    intro v hv
    rw [List.mem_singleton.mp hv]
    exact isSectioned_of_forall (by simp [sections])
  refine (load_eq_ok_iff hfile isSectioned_empty hvariables).mpr ⟨fun key => ?_, Nat.le_max_left 1 processors, Nat.le_add_left 1 4⟩
  rw [winner, Environment.setting?, hlayers]
  cases key <;> rfl

end Settings

namespace App

variable {settings : Settings} {backend : Backend} {extras : List (String × Target)} {files : Files}

/-! ## How building comes out -/

/-- How building comes out, by what comes first: the bus, the store, the entries in their order, the pool. -/
inductive Builds (settings : Settings) (backend : Backend) (extras : List (String × Target)) (files : Files) :
    Except BuildError (App × List Teardown) → Prop
  | bus (hc : Bus.maxCapacity < settings.eventCapacity) : Builds settings backend extras files (.error .capacityTooLarge)
  | store {failure : Failure} (hc : settings.eventCapacity ≤ Bus.maxCapacity) (hl : Vault.load files backend = .error failure) :
      Builds settings backend extras files (.error (.failed failure))
  | entry {vault : Vault} {failure : Failure} {before behind : List TargetConfig} {c : TargetConfig}
      (hc : settings.eventCapacity ≤ Bus.maxCapacity) (hl : Vault.load files backend = .ok vault)
      (htargets : settings.targets = before ++ c :: behind) (hbefore : ∀ b ∈ before, ∀ failure, ¬b.Faulty failure)
      (hfaulty : c.Faulty failure) : Builds settings backend extras files (.error (.failed failure))
  | pool {vault : Vault} (hc : settings.eventCapacity ≤ Bus.maxCapacity) (hl : Vault.load files backend = .ok vault)
      (hgood : ∀ c ∈ settings.targets, ∀ failure, ¬c.Faulty failure) (hw : Pool.limit < settings.maxWorkers) :
      Builds settings backend extras files (.error .tooManyWorkers)
  | built {vault : Vault} (hc : settings.eventCapacity ≤ Bus.maxCapacity) (hl : Vault.load files backend = .ok vault)
      (hgood : ∀ c ∈ settings.targets, ∀ failure, ¬c.Faulty failure) (hw : settings.maxWorkers ≤ Pool.limit) :
      Builds settings backend extras files (.ok (assembled settings vault (settings.targets.map TargetConfig.given ++ extras)))

/-- Building comes out in one of these ways. -/
theorem builds_build (settings : Settings) (backend : Backend) (extras : List (String × Target)) (files : Files) :
    Builds settings backend extras files (build settings backend extras files) := by
  unfold build
  split
  · next hc => exact .bus hc
  · next hc =>
    have hc := Nat.le_of_not_lt hc
    split
    · next failure hl => exact .store hc hl
    · next vault hl =>
      rcases TargetConfig.mapM_configured settings.targets with
        ⟨failure, before, c, behind, htargets, hbefore, hfaulty, hm⟩ | ⟨hgood, hm⟩
      · rw [hm]
        exact .entry hc hl htargets hbefore hfaulty
      · rw [hm]
        dsimp only
        split
        · next hw => exact .pool hc hl hgood hw
        · next hw => exact .built hc hl hgood (Nat.le_of_not_lt hw)

/-- Building breaks off at the bus exactly if that is to keep more events than it can. -/
theorem build_eq_capacityTooLarge_iff :
    build settings backend extras files = .error .capacityTooLarge ↔ Bus.maxCapacity < settings.eventCapacity := by
  constructor
  · intro hb
    have hcomes := builds_build settings backend extras files
    rw [hb] at hcomes
    cases hcomes with
    | bus hc => exact hc
  · exact fun hc => if_pos hc

/-- It breaks off at the pool exactly if that is to have more workers than it can, and nothing stops it before. -/
theorem build_eq_tooManyWorkers_iff :
    build settings backend extras files = .error .tooManyWorkers ↔
      settings.eventCapacity ≤ Bus.maxCapacity ∧ (∃ vault, Vault.load files backend = .ok vault) ∧
        (∀ c ∈ settings.targets, ∀ failure, ¬c.Faulty failure) ∧ Pool.limit < settings.maxWorkers := by
  have hcomes := builds_build settings backend extras files
  constructor
  · intro hb
    rw [hb] at hcomes
    cases hcomes with
    | pool hc hl hgood hw => exact ⟨hc, ⟨_, hl⟩, hgood, hw⟩
  · rintro ⟨hc, ⟨vault, hl⟩, hgood, hw⟩
    generalize build settings backend extras files = result at hcomes
    cases hcomes with
    | bus hc' => exact absurd hc (Nat.not_le.mpr hc')
    | store _ hl' => cases hl.symm.trans hl'
    | entry _ _ htargets _ hfaulty => exact absurd hfaulty (hgood _ (htargets ▸ List.mem_append_right _ List.mem_cons_self) _)
    | pool => rfl
    | built _ _ _ hw' => exact absurd hw (Nat.not_lt.mpr hw')

/-! ## What is built -/

/-- Registering leaves the pool, and how many events the bus keeps. -/
theorem foldl_registerFrom_frame (s : Store) (targets : List (String × Target)) (state : Hub × List Teardown) :
    (targets.foldl (registerFrom s) state).1.pool = state.1.pool ∧
      (targets.foldl (registerFrom s) state).1.bus.capacity = state.1.bus.capacity := by
  induction targets generalizing state with
  | nil => exact ⟨rfl, rfl⟩
  | cons target rest ih => exact ih (registerFrom s state target)

/-- What is the case for an application that is set up as its settings say: it has their number of workers, all of them free, and a bus of
their capacity, and the task that saves activations runs, so that no task is broken off. -/
structure SetUp (settings : Settings) (a : App) : Prop where
  workers : a.hub.pool = { maxWorkers := settings.maxWorkers, available := settings.maxWorkers }
  events : a.hub.bus.capacity = (Bus.ofCapacity settings.eventCapacity).capacity
  persists : a.persists = true
  unbroken : a.supervisor.shutdown.1 = []

/-- What is put together of settings with a worker and an interval is set up as they say. -/
theorem setUp_assembled (hworkers : 1 ≤ settings.maxWorkers) (hflush : 1 ≤ settings.state.flushIntervalSeconds) (vault : Vault)
    (targets : List (String × Target)) : SetUp settings (assembled settings vault targets).1 := by
  have hinterval : settings.state.flushIntervalSeconds ≠ 0 := Nat.ne_of_gt hflush
  obtain ⟨hpool, hcapacity⟩ := foldl_registerFrom_frame vault.store targets (emptyHub settings, [])
  constructor
  case workers =>
    have hmax : max 1 settings.maxWorkers = settings.maxWorkers := Nat.max_eq_right hworkers
    refine hpool.trans ?_
    rw [emptyHub, Pool.ofWorkers, hmax]
  case events => exact hcapacity
  case persists => exact bne_iff_ne.mpr hinterval
  case unbroken =>
    have hzero : (settings.state.flushIntervalSeconds == 0) = false := beq_eq_false_iff_ne.mpr hinterval
    change (tasks settings.state.flushIntervalSeconds).shutdown.1 = []
    rw [tasks, hzero]
    rfl

/-- Settings that are accepted, whatever layers they come from, have a worker and an interval. With any store and any extra targets building
breaks off exactly if the bus is to keep more events than it can, or if the pool is to have more workers than it can and neither the store
nor an entry stops it before. If both numbers are within their limits, it gives an application, or tells of the store or of the first entry
at fault. What is built is set up as the settings say. -/
theorem accepted_settings_are_built_within_limits {processors : Nat} {files : Files} {environment : List (String × String)}
    {c : CommandLine} {settings : Settings} (hload : Settings.load processors files environment c = .ok settings)
    (backend : Backend) (extras : List (String × Target)) (files' : Files) :
    (1 ≤ settings.maxWorkers ∧ 1 ≤ settings.state.flushIntervalSeconds) ∧
    (build settings backend extras files' = .error .capacityTooLarge ↔ Bus.maxCapacity < settings.eventCapacity) ∧
    (build settings backend extras files' = .error .tooManyWorkers ↔
      settings.eventCapacity ≤ Bus.maxCapacity ∧ (∃ vault, Vault.load files' backend = .ok vault) ∧
        (∀ c ∈ settings.targets, ∀ failure, ¬c.Faulty failure) ∧ Pool.limit < settings.maxWorkers) ∧
    (∀ failure, build settings backend extras files' = .error (.failed failure) →
      Vault.load files' backend = .error failure ∨ ∃ before c behind, settings.targets = before ++ c :: behind ∧
        (∀ b ∈ before, ∀ failure, ¬b.Faulty failure) ∧ c.Faulty failure) ∧
    (settings.eventCapacity ≤ Bus.maxCapacity → settings.maxWorkers ≤ Pool.limit →
      (∃ app teardowns, build settings backend extras files' = .ok (app, teardowns)) ∨
        ∃ failure, build settings backend extras files' = .error (.failed failure)) ∧
    (∀ app teardowns, build settings backend extras files' = .ok (app, teardowns) → SetUp settings app) := by
  have hpositive := Settings.positive_of_load hload
  have hcomes := builds_build settings backend extras files'
  refine ⟨hpositive, build_eq_capacityTooLarge_iff, build_eq_tooManyWorkers_iff, fun failure hb => ?_, fun hc hw => ?_,
    fun app teardowns hb => ?_⟩
  · rw [hb] at hcomes
    cases hcomes with
    | store _ hl => exact .inl hl
    | entry _ _ htargets hbefore hfaulty => exact .inr ⟨_, _, _, htargets, hbefore, hfaulty⟩
  · generalize build settings backend extras files' = result at hcomes
    cases hcomes with
    | bus hc' => exact absurd hc (Nat.not_le.mpr hc')
    | pool _ _ _ hw' => exact absurd hw (Nat.not_le.mpr hw')
    | store | entry => exact .inr ⟨_, rfl⟩
    | built => exact .inl ⟨_, _, rfl⟩
  · rw [hb] at hcomes
    generalize hresult : (Except.ok (app, teardowns) : Except BuildError (App × List Teardown)) = result at hcomes
    cases hcomes with
    | built =>
      obtain rfl := (Prod.mk.inj (Except.ok.inj hresult)).1
      exact setUp_assembled hpositive.1 hpositive.2 _ _
    | _ => cases hresult

/-- Three workers are accepted, and there they are. -/
theorem three_workers_are_built : ∃ settings app teardowns,
    Settings.load 1 {} [] { maxWorkers := some 3 } = .ok settings ∧
      build settings (App.backend settings.state) [] {} = .ok (app, teardowns) ∧
      app.hub.pool = { maxWorkers := 3, available := 3 } ∧ app.supervisor.shutdown.1 = [] := by
  let settings : Settings := { Settings.standard 1 with maxWorkers := 3 }
  have hload : Settings.load 1 {} [] { maxWorkers := some 3 } = .ok settings := Settings.load_maxWorkers 1 {} none (by decide)
  have hl : Vault.load {} .emptyMemory = .ok ⟨⟨[], false⟩, .emptyMemory⟩ := rfl
  have hc : settings.eventCapacity ≤ Bus.maxCapacity := by decide
  have hw : settings.maxWorkers ≤ Pool.limit := by decide
  have hb : build settings .emptyMemory [] {} = .ok (assembled settings ⟨⟨[], false⟩, .emptyMemory⟩ []) := build_eq hl hc hw
  have hsetUp := (accepted_settings_are_built_within_limits hload .emptyMemory [] {}).2.2.2.2.2 _ _ hb
  exact ⟨settings, _, _, hload, hb, hsetUp.workers, hsetUp.unbroken⟩

/-- More workers than the pool can have are accepted and break the building off, and so do more events than the bus can keep. -/
theorem numbers_beyond_the_limits_are_accepted :
    (∃ c settings, CommandLine.ofArguments ["--max-workers", "2305843009213693952", "list"] = .ok c ∧
      Settings.load 1 {} [] c = .ok settings ∧ build settings (App.backend settings.state) [] {} = .error .tooManyWorkers) ∧
    (∃ settings, Settings.load 1 {} [("NOTIFYHUB_EVENTS__CAPACITY", "9223372036854775808")] {} = .ok settings ∧
      build settings (App.backend settings.state) [] {} = .error .capacityTooLarge) := by
  constructor
  · let settings : Settings := { Settings.standard 1 with maxWorkers := 2305843009213693952 }
    have harguments : CommandLine.ofArguments ["--max-workers", "2305843009213693952", "list"] =
        .ok { maxWorkers := some 2305843009213693952, command := some (.list false) } := by rfl
    have hload := Settings.load_maxWorkers 1 {} (some (.list false)) (n := 2305843009213693952) (by omega)
    have hl : Vault.load {} .emptyMemory = .ok ⟨⟨[], false⟩, .emptyMemory⟩ := rfl
    have hgood : ∀ c ∈ settings.targets, ∀ failure, ¬c.Faulty failure := fun c hc => absurd hc List.not_mem_nil
    exact ⟨_, settings, harguments, hload, build_eq_tooManyWorkers_iff.mpr ⟨by decide, ⟨_, hl⟩, hgood, by decide⟩⟩
  · let settings : Settings := { Settings.standard 1 with eventCapacity := 9223372036854775808 }
    have hload := Settings.load_eventCapacity 1 {} (n := 9223372036854775808) (by decide)
    exact ⟨settings, hload, build_eq_capacityTooLarge_iff.mpr (by decide)⟩

end App

end Herald
