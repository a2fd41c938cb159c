import Herald.Proofs.SavedFile
import Herald.Proofs.StoreRecord

/-!
# Flushing a store

A flush takes four steps: it takes the mark off, takes the snapshot, saves it, and puts the mark back if the save failed. Activations may
be recorded between any two of them, and every save may fail. A record is one step, because it holds the targets until it has set the
mark. What is kept all the way (`Flushing.Kept`) is that an unmarked store agrees with what is on its way to the backend, or is in it.
Memory gives back what was saved, and a file gives back what is written of it (`Backend.givesBack`). `Vault.flush` is the four steps with
nothing in between (`run_flush`).
-/

namespace Herald

namespace Backend

/-- Saves a snapshot where the disk, or whatever the backend is, may refuse. -/
def attempt (refusal : Option StateFile.Refusal) (files : Files) (s : Snapshot) : Backend → Backend × Files × Except Failure Unit
  | .file path =>
    let (files, result) := StateFile.save refusal files path s
    (.file path, files, result)
  | .memory saved refusesLoad refusesSave =>
    if refusal.isSome || refusesSave then (.memory saved refusesLoad refusesSave, files, .error ⟨"save refused", []⟩)
    else (.memory (some s) refusesLoad refusesSave, files, .ok ())

/-- Where nothing is refused, that is a save. -/
theorem attempt_none (files : Files) (s : Snapshot) (b : Backend) : b.attempt none files s = b.save files s := by
  cases b <;> rfl

/-- What a backend gives back of a snapshot that is saved to it. -/
def givesBack (s : Snapshot) : Backend → Snapshot
  | .file _ => s.written
  | .memory _ _ _ => s

/-- All that a clock can show is given back, and memory gives back anything. -/
theorem givesBack_of_onClock {b : Backend} {s : Snapshot} (h : ∀ path, b = .file path → s.OnClock) : b.givesBack s = s := by
  cases b with
  | file path => exact Snapshot.written_of_onClock (h path rfl)
  | memory saved refusesLoad refusesSave => rfl

/-- Backends of one kind give back the same. -/
theorem givesBack_congr {a b : Backend} (h : ∀ path, a = .file path ↔ b = .file path) (s : Snapshot) :
    a.givesBack s = b.givesBack s := by
  cases a with
  | file path => rw [(h path).mp rfl]
  | memory saved refusesLoad refusesSave =>
    cases b with
    | file path => cases (h path).mpr rfl
    | memory saved refusesLoad refusesSave => rfl

/-- The version is given back. -/
theorem version_givesBack (b : Backend) (s : Snapshot) : (b.givesBack s).version = s.version := by
  cases b <;> rfl

/-- What a backend gives back of an instant that is saved to it. -/
def gives (b : Backend) (t : Instant) : Instant :=
  match b with
  | .file _ => t.written
  | .memory _ _ _ => t

/-- An instant is given back if a clock can show it, and by memory in any case. -/
theorem gives_of_onClock {b : Backend} {t : Instant} (h : ∀ path, b = .file path → t.OnClock) : b.gives t = t := by
  cases b with
  | file path => exact Instant.written_of_onClock (h path rfl)
  | memory saved refusesLoad refusesSave => rfl

/-- Nothing is given back that is before what was saved. -/
theorem le_gives (b : Backend) (t : Instant) : t ≤ b.gives t := by
  cases b with
  | file path => exact t.le_written
  | memory saved refusesLoad refusesSave => exact Std.le_refl t

/-- Of every target the instant is given back. -/
theorem get?_givesBack (b : Backend) (s : Snapshot) (identity : String) :
    (b.givesBack s).targets.get? identity = (s.targets.get? identity).map b.gives := by
  cases b with
  | file path => exact s.get?_written identity
  | memory saved refusesLoad refusesSave =>
    change s.targets.get? identity = _
    cases s.targets.get? identity <;> rfl

/-- A save leaves a backend of its kind. -/
theorem attempt_eq_file_iff {b : Backend} {files : Files} {s : Snapshot} {refusal : Option StateFile.Refusal} {path : String} :
    (b.attempt refusal files s).1 = .file path ↔ b = .file path := by
  cases b with
  | file path => exact Iff.rfl
  | memory saved refusesLoad refusesSave =>
    rw [attempt]
    split
    · exact ⟨nofun, nofun⟩
    · exact ⟨nofun, nofun⟩

/-- Whether a backend gives back a snapshot that is saved to it. -/
def Keeps (files : Files) (s : Snapshot) : Backend → Prop
  | .file _ => files.Tree ∧ s.targets.Rising
  | .memory _ refusesLoad _ => refusesLoad = false

/-- A save keeps what the backend needs to give back any snapshot. -/
theorem keeps_attempt {b : Backend} {files : Files} {s : Snapshot} (h : b.Keeps files s) (refusal : Option StateFile.Refusal)
    (saved : Snapshot) : (b.attempt refusal files saved).1.Keeps (b.attempt refusal files saved).2.1 s := by
  cases b with
  | file path => exact ⟨StateFile.tree_save h.1 refusal path saved, h.2⟩
  | memory before refusesLoad refusesSave =>
    rw [attempt]
    split
    · exact h
    · exact h

/-- What a save that succeeds has saved is given back. -/
theorem load_attempt {b : Backend} {files : Files} {s : Snapshot} (h : b.Keeps files s) (hv : s.version = Snapshot.currentVersion)
    {refusal : Option StateFile.Refusal} (hok : (b.attempt refusal files s).2.2 = .ok ()) :
    (b.attempt refusal files s).1.load (b.attempt refusal files s).2.1 = .ok (b.givesBack s) := by
  cases b with
  | file path => exact StateFile.load_of_save h.1 hv h.2 hok
  | memory before refusesLoad refusesSave =>
    have hload : refusesLoad = false := h
    rw [attempt] at hok ⊢
    split at hok
    · exact absurd hok nofun
    · next hr =>
      rw [if_neg hr, load, hload]
      rfl

end Backend

namespace Vault

variable {files : Files} {backend : Backend} {vault : Vault}

/-- What is loaded is the store of the snapshot that the backend gives. -/
theorem exists_of_load (hl : Vault.load files backend = .ok vault) : ∃ s, backend.load files = .ok s ∧ vault = ⟨.ofSnapshot s, backend⟩ := by
  rw [Vault.load] at hl
  cases hs : backend.load files with
  | error failure =>
    rw [hs] at hl
    cases hl
  | ok s =>
    rw [hs] at hl
    exact ⟨s, rfl, (Except.ok.inj hl).symm⟩

/-- It is saved to the backend that gave it. -/
theorem backend_of_load (hl : Vault.load files backend = .ok vault) : vault.backend = backend := by
  obtain ⟨s, -, rfl⟩ := exists_of_load hl
  rfl

/-- A store that was loaded has no mark. -/
theorem dirty_of_load (hl : Vault.load files backend = .ok vault) : vault.store.dirty = false := by
  obtain ⟨s, -, rfl⟩ := exists_of_load hl
  rfl

end Vault

/-- How far a flush has come. -/
inductive Progress
  | idle
  /-- The mark has been taken off. -/
  | cleared
  /-- The snapshot has been taken. -/
  | saving (s : Snapshot)
  /-- The save has failed. -/
  | failed
  deriving DecidableEq, Repr

/-- A store with its backend and the files, while a flush may be on its way. -/
structure Flushing where
  vault : Vault
  files : Files
  progress : Progress := .idle
  /-- How often a save was begun. -/
  saves : Nat := 0

/-- What may happen to a store: activations are recorded, and a flush takes its steps. -/
inductive FlushAction
  | record (identity : String) (t : Instant)
  | sync (activations : List (String × Instant))
  | clear
  | take
  | save (refusal : Option StateFile.Refusal)
  | settle

namespace Flushing

/-- The store that is flushed. -/
abbrev store (x : Flushing) : Store :=
  x.vault.store

/-- Loads from the backend as it is. -/
def load (x : Flushing) : Except Failure Snapshot :=
  x.vault.backend.load x.files

/-- One step. A step of the flush is taken where the flush has come to it, and a flush begins where none is on its way. -/
def step (x : Flushing) : FlushAction → Flushing
  | .record identity t => { x with vault := x.vault.modify fun s => (s.record identity t).2 }
  | .sync activations => { x with vault := x.vault.modify fun s => s.sync activations }
  | .clear =>
    match x.progress with
    | .idle => if x.store.dirty then { x with vault := x.vault.modify Store.unmark, progress := .cleared } else x
    | _ => x
  | .take =>
    match x.progress with
    | .cleared => { x with progress := .saving x.store.snapshot }
    | _ => x
  | .save refusal =>
    match x.progress with
    | .saving s =>
      let (backend, files, result) := x.vault.backend.attempt refusal x.files s
      { vault := { x.vault with backend }
        files
        progress := match result with
          | .ok () => .idle
          | .error _ => .failed
        saves := x.saves + 1 }
    | _ => x
  | .settle =>
    match x.progress with
    | .failed => { x with vault := x.vault.modify Store.mark, progress := .idle }
    | _ => x

/-- Some steps, one after the other. -/
def run (x : Flushing) (actions : List FlushAction) : Flushing :=
  actions.foldl step x

/-- The steps of a flush. -/
def flush (refusal : Option StateFile.Refusal) : List FlushAction :=
  [.clear, .take, .save refusal, .settle]

/-- What all steps keep: the backend can give back the store, and an unmarked store agrees with what is being saved, or was. -/
structure Kept (x : Flushing) : Prop where
  keeps : x.vault.backend.Keeps x.files x.store.snapshot
  agrees : match x.progress with
    | .idle => x.store.dirty = false → x.load = .ok (x.vault.backend.givesBack x.store.snapshot)
    | .cleared => True
    | .saving s => x.vault.backend.Keeps x.files s ∧ s.version = Snapshot.currentVersion ∧
        (x.store.dirty = false → x.store.snapshot = s)
    | .failed => True

/-- What stands in the store that is saved to a file is found there. -/
theorem Kept.get?_of_mem {x : Flushing} (h : x.Kept) {path : String} (hb : x.vault.backend = .file path) {p : String × Instant}
    (hp : p ∈ x.store.targets) : x.store.restored p.1 = some p.2 := by
  have hkeeps := h.keeps
  rw [hb] at hkeeps
  exact (Keyed.get?_eq_some_iff hkeeps.2).mpr hp

/-- A change of the store that sets the mark, or is none, is kept to. -/
theorem Kept.modify {x : Flushing} (h : x.Kept) {f : Store → Store} (hrising : ∀ {s : Store}, s.targets.Rising → (f s).targets.Rising)
    (hmark : ∀ {s : Store}, (f s).dirty = false → f s = s) : Kept { x with vault := x.vault.modify f } := by
  obtain ⟨⟨store, backend⟩, files, progress, saves⟩ := x
  obtain ⟨hkeeps, hagrees⟩ := h
  constructor
  case keeps =>
    cases backend with
    | file path => exact ⟨hkeeps.1, hrising hkeeps.2⟩
    | memory saved refusesLoad refusesSave => exact hkeeps
  case agrees =>
    have hclean : (f store).dirty = false → f store = store ∧ store.dirty = false := by
      intro hd
      have hsame := hmark hd
      exact ⟨hsame, hsame ▸ hd⟩
    cases progress with
    | idle =>
      intro hd
      obtain ⟨hsame, hclean⟩ := hclean hd
      have hload := hagrees hclean
      change Backend.load files backend = .ok (backend.givesBack (f store).snapshot)
      rw [hsame]
      exact hload
    | cleared => trivial
    | saving s =>
      refine ⟨hagrees.1, hagrees.2.1, fun hd => ?_⟩
      obtain ⟨hsame, hclean⟩ := hclean hd
      change (f store).snapshot = s
      rw [hsame]
      exact hagrees.2.2 hclean
    | failed => trivial

/-- Taking the mark off keeps to it: nothing is promised until the snapshot is taken. -/
theorem Kept.clear {x : Flushing} (h : x.Kept) : (x.step .clear).Kept := by
  rw [Flushing.step]
  split
  · split
    · exact ⟨h.keeps, trivial⟩
    · exact h
  · exact h

/-- Taking the snapshot keeps to it. -/
theorem Kept.take {x : Flushing} (h : x.Kept) : (x.step .take).Kept := by
  rw [Flushing.step]
  split
  · exact ⟨h.keeps, h.keeps, rfl, fun _ => rfl⟩
  · exact h

/-- Saving the snapshot keeps to it: an unmarked store is the snapshot still, so the backend gives it back if the save succeeds. -/
theorem Kept.save {x : Flushing} (h : x.Kept) (refusal : Option StateFile.Refusal) : (x.step (.save refusal)).Kept := by
  rw [Flushing.step]
  split
  · next s hp =>
    have hagrees := h.agrees
    rw [hp] at hagrees
    obtain ⟨hkeeps, hversion, hsame⟩ := hagrees
    refine ⟨Backend.keeps_attempt h.keeps refusal s, ?_⟩
    cases hr : (x.vault.backend.attempt refusal x.files s).2.2 with
    | error failure =>
      simp only [hr]
    | ok _ =>
      simp only [hr]
      intro hd
      have hload := Backend.load_attempt hkeeps hversion hr
      change (x.vault.backend.attempt refusal x.files s).1.load (x.vault.backend.attempt refusal x.files s).2.1 =
        .ok ((x.vault.backend.attempt refusal x.files s).1.givesBack x.store.snapshot)
      rw [hload, Backend.givesBack_congr fun _ => Backend.attempt_eq_file_iff, hsame hd]
  · exact h

/-- Putting the mark back keeps to it: nothing is promised of a marked store. -/
theorem Kept.settle {x : Flushing} (h : x.Kept) : (x.step .settle).Kept := by
  rw [Flushing.step]
  split
  · exact ⟨h.keeps, nofun⟩
  · exact h

/-- Every step keeps to it. -/
theorem Kept.step {x : Flushing} (h : x.Kept) (a : FlushAction) : (x.step a).Kept := by
  cases a with
  | record identity t => exact h.modify (fun hr => Store.rising_record hr identity t) Store.record_of_dirty
  | sync activations => exact h.modify (fun hr => Store.rising_sync hr activations) Store.sync_of_dirty
  | clear => exact h.clear
  | take => exact h.take
  | save refusal => exact h.save refusal
  | settle => exact h.settle

/-- Every run keeps to it. -/
theorem Kept.run {x : Flushing} (h : x.Kept) (actions : List FlushAction) : (x.run actions).Kept := by
  induction actions generalizing x with
  | nil => exact h
  | cons a rest ih => exact ih (h.step a)

/-- A step of a flush does nothing to an unmarked store while no flush is on its way. -/
theorem step_of_clean {x : Flushing} (hidle : x.progress = .idle) (hclean : x.store.dirty = false) {a : FlushAction}
    {refusal : Option StateFile.Refusal} (ha : a ∈ flush refusal) : x.step a = x := by
  simp only [flush, List.mem_cons, List.not_mem_nil, or_false] at ha
  rcases ha with rfl | rfl | rfl | rfl
  · rw [step, hidle]
    simp [hclean]
  · rw [step, hidle]
  · rw [step, hidle]
  · rw [step, hidle]

/-- A flush of an unmarked store does nothing, and so does not save. -/
theorem run_flush_of_clean {x : Flushing} (hidle : x.progress = .idle) (hclean : x.store.dirty = false)
    (refusal : Option StateFile.Refusal) : x.run (flush refusal) = x :=
  List.foldlRecOn (flush refusal) step (motive := fun y => y = x) rfl fun _ hy _ ha => hy ▸ step_of_clean hidle hclean ha

/-- The steps of a flush with nothing in between are the flush of the vault, which fails if its save has failed before the last step. -/
theorem run_flush (v : Vault) (files : Files) (saves : Nat) :
    ((⟨v, files, .idle, saves⟩ : Flushing).run (flush none)).vault = (v.flush files).1 ∧
      ((⟨v, files, .idle, saves⟩ : Flushing).run (flush none)).files = (v.flush files).2.1 ∧
      ((⟨v, files, .idle, saves⟩ : Flushing).run (flush none)).progress = .idle ∧
      (((⟨v, files, .idle, saves⟩ : Flushing).run [.clear, .take, .save none]).progress != .failed) = (v.flush files).2.2.isOk := by
  have hlast : (⟨v, files, .idle, saves⟩ : Flushing).run (flush none) =
      ((⟨v, files, .idle, saves⟩ : Flushing).run [.clear, .take, .save none]).step .settle := rfl
  rw [hlast]
  cases hd : v.store.dirty with
  | false =>
    have hsaved : (⟨v, files, .idle, saves⟩ : Flushing).run [.clear, .take, .save none] = ⟨v, files, .idle, saves⟩ := by
      simp [run, step, store, hd]
    rw [hsaved, Vault.flush, hd]
    exact ⟨rfl, rfl, rfl, rfl⟩
  | true =>
    have hclear : (⟨v, files, .idle, saves⟩ : Flushing).step .clear = ⟨v.modify Store.unmark, files, .cleared, saves⟩ :=
      if_pos hd
    have htake : (⟨v.modify Store.unmark, files, .cleared, saves⟩ : Flushing).step .take =
        ⟨v.modify Store.unmark, files, .saving v.store.unmark.snapshot, saves⟩ := rfl
    have hsaved : (⟨v, files, .idle, saves⟩ : Flushing).run [.clear, .take, .save none] =
        (⟨v.modify Store.unmark, files, .saving v.store.unmark.snapshot, saves⟩ : Flushing).step (.save none) := by
      rw [run, List.foldl_cons, hclear, List.foldl_cons, htake, List.foldl_cons, List.foldl_nil]
    rw [hsaved]
    rcases hs : v.backend.save files v.store.unmark.snapshot with ⟨backend, files', failure | _⟩
    · simp only [step, Vault.flush, Vault.modify, Backend.attempt_none, hd, hs]
      exact ⟨rfl, rfl, trivial, rfl⟩
    · simp only [step, Vault.flush, Vault.modify, Backend.attempt_none, hd, hs]
      exact ⟨rfl, rfl, trivial, rfl⟩

/-- A snapshot that a file gives is of the current version, with its targets in rising order and instants that a clock can show. -/
theorem loaded_of_file {files : Files} {path : String} {s : Snapshot} (h : StateFile.load files path = .ok s) :
    s.version = Snapshot.currentVersion ∧ s.targets.Rising ∧ s.OnClock := by
  have hempty : Snapshot.empty.version = Snapshot.currentVersion ∧ Snapshot.empty.targets.Rising ∧ Snapshot.empty.OnClock :=
    ⟨rfl, Keyed.rising_nil, fun p hp => absurd hp List.not_mem_nil⟩
  rw [StateFile.load] at h
  split at h
  · exact Except.ok.inj h ▸ hempty
  · cases h
  · split at h
    · exact Except.ok.inj h ▸ hempty
    · next hs =>
      split at h
      · next hv => exact Except.ok.inj h ▸ ⟨hv, Snapshot.rising_onClock_ofText? hs⟩
      · cases h

/-- The store of a snapshot of the current version is that snapshot. -/
theorem snapshot_ofSnapshot {s : Snapshot} (hv : s.version = Snapshot.currentVersion) : (Store.ofSnapshot s).snapshot = s := by
  rw [Store.snapshot, Store.ofSnapshot, Snapshot.ofTargets, ← hv]

/-- What was loaded is what the backend gives back, as long as nothing was saved. -/
theorem kept_of_load {files : Files} {backend : Backend} {vault : Vault} (hl : Vault.load files backend = .ok vault)
    (ht : files.Tree)
    (hv : ∀ saved refusesLoad refusesSave, backend = .memory (some saved) refusesLoad refusesSave →
      saved.version = Snapshot.currentVersion) : (⟨vault, files, .idle, 0⟩ : Flushing).Kept := by
  obtain ⟨s, hs, rfl⟩ := Vault.exists_of_load hl
  cases backend with
  | file path =>
    obtain ⟨hversion, hrising, hshown⟩ := loaded_of_file hs
    refine ⟨⟨ht, hrising⟩, fun _ => hs.trans (congrArg _ ?_)⟩
    change s = (Store.ofSnapshot s).snapshot.written
    rw [snapshot_ofSnapshot hversion, Snapshot.written_of_onClock hshown]
  | memory saved refusesLoad refusesSave =>
    rw [Backend.load] at hs
    split at hs
    · exact absurd hs nofun
    · next hload =>
      have hload : refusesLoad = false := by simpa using hload
      obtain rfl := Except.ok.inj hs
      have hversion : (saved.getD .empty).version = Snapshot.currentVersion := by
        cases saved with
        | none => rfl
        | some saved => exact hv saved refusesLoad refusesSave rfl
      refine ⟨hload, fun _ => ?_⟩
      change Backend.load files (.memory saved refusesLoad refusesSave) = .ok (Store.ofSnapshot (saved.getD .empty)).snapshot
      rw [snapshot_ofSnapshot hversion, Backend.load, hload]
      rfl

/-- The store that a file gives has instants that a clock can show. -/
theorem onClock_of_load {files : Files} {path : String} {vault : Vault} (hl : Vault.load files (.file path) = .ok vault)
    {identity : String} {t : Instant} (ht : vault.store.restored identity = some t) : t.OnClock := by
  obtain ⟨s, hs, rfl⟩ := Vault.exists_of_load hl
  exact (loaded_of_file hs).2.2 _ (Keyed.mem_of_get? ht)

/-- A step leaves a backend of its kind. -/
theorem backend_step_eq_file_iff (x : Flushing) (a : FlushAction) {path : String} :
    (x.step a).vault.backend = .file path ↔ x.vault.backend = .file path := by
  cases a with
  | record identity t => exact Iff.rfl
  | sync activations => exact Iff.rfl
  | clear =>
    rw [step]
    split
    · split <;> exact Iff.rfl
    · exact Iff.rfl
  | take =>
    rw [step]
    split <;> exact Iff.rfl
  | save refusal =>
    rw [step]
    split
    · exact Backend.attempt_eq_file_iff
    · exact Iff.rfl
  | settle =>
    rw [step]
    split <;> exact Iff.rfl

/-- So does a run. -/
theorem backend_run_eq_file_iff (x : Flushing) (actions : List FlushAction) (path : String) :
    (x.run actions).vault.backend = .file path ↔ x.vault.backend = .file path := by
  induction actions generalizing x with
  | nil => exact Iff.rfl
  | cons a rest ih => exact (ih (x.step a)).trans (x.backend_step_eq_file_iff a)

/-- From what was loaded on, whatever is recorded between the steps of the flushes and whichever saves fail: a store without the mark,
while no flush is on its way, is what the backend gives back, and a flush of it does not save. Memory gives back the store itself, and
so does a file if a clock can show what the store holds; else a file gives back what is written of it. A save to a file that fails leaves
what is loaded as it was, unless the path strays. -/
theorem flushing_forgets_nothing {files : Files} {backend : Backend} {vault : Vault} (hl : Vault.load files backend = .ok vault)
    (ht : files.Tree)
    (hv : ∀ saved refusesLoad refusesSave, backend = .memory (some saved) refusesLoad refusesSave →
      saved.version = Snapshot.currentVersion) :
    (∀ actions, ((⟨vault, files, .idle, 0⟩ : Flushing).run actions).progress = .idle →
      ((⟨vault, files, .idle, 0⟩ : Flushing).run actions).store.dirty = false →
        ((⟨vault, files, .idle, 0⟩ : Flushing).run actions).load =
            .ok (backend.givesBack ((⟨vault, files, .idle, 0⟩ : Flushing).run actions).store.snapshot) ∧
          ((∀ path, backend = .file path → ((⟨vault, files, .idle, 0⟩ : Flushing).run actions).store.snapshot.OnClock) →
            ((⟨vault, files, .idle, 0⟩ : Flushing).run actions).load =
              .ok ((⟨vault, files, .idle, 0⟩ : Flushing).run actions).store.snapshot) ∧
          ∀ refusal, ((⟨vault, files, .idle, 0⟩ : Flushing).run actions).run (flush refusal) =
            (⟨vault, files, .idle, 0⟩ : Flushing).run actions) ∧
    ∀ (f : Files) path refusal s failure, f.Tree → f.strays (f.start path) (Path.parts path) = false →
      (StateFile.save refusal f path s).2 = .error failure →
        StateFile.load (StateFile.save refusal f path s).1 path = StateFile.load f path := by
  refine ⟨fun actions hidle hclean => ?_, fun f path refusal s failure hf hs he => StateFile.load_of_save_error hf hs he⟩
  have hkept := ((kept_of_load hl ht hv).run actions).agrees
  have hkind := backend_run_eq_file_iff ⟨vault, files, .idle, 0⟩ actions
  obtain ⟨s, -, rfl⟩ := Vault.exists_of_load hl
  rw [hidle] at hkept
  have hload := (hkept hclean).trans (congrArg _ (Backend.givesBack_congr hkind _))
  refine ⟨hload, fun hshown => ?_, run_flush_of_clean hidle hclean⟩
  rw [hload, Backend.givesBack_of_onClock hshown]

/-- An activation that is recorded while another one is saved is not in the file yet, and the store is marked; the next flush saves it. -/
theorem record_while_saving_is_kept :
    ∃ (vault : Vault) (x : Flushing), Vault.load {} (.file "state.json") = .ok vault ∧
      x = (⟨vault, {}, .idle, 0⟩ : Flushing).run ([.record "a" .epoch, .clear, .take, .record "b" .epoch, .save none] ++ flush none) ∧
      x.saves = 2 ∧ x.load = .ok (.ofTargets [("a", .epoch), ("b", .epoch)]) := by
  have hl : Vault.load {} (.file "state.json") = .ok ⟨⟨[], false⟩, .file "state.json"⟩ := rfl
  obtain ⟨hkept, _⟩ := flushing_forgets_nothing hl (Files.tree_of_empty rfl) nofun
  obtain ⟨_, hload, _⟩ :=
    hkept ([.record "a" .epoch, .clear, .take, .record "b" .epoch, .save none] ++ flush none) (by decide) (by decide)
  exact ⟨_, _, hl, rfl, by decide, hload fun _ _ => by decide⟩

/-- A save that fails may make a missing directory first and so lead the path, which goes back from there, to a file in the place of a
directory: what was loaded as missing cannot be loaded any more. And a file does not give back a third of a second in a second that is
inserted behind 00:00:04, though nothing is marked. -/
theorem failing_save_changes_what_is_loaded :
    (¬∀ (f : Files) path refusal s failure, f.Tree → (StateFile.save refusal f path s).2 = .error failure →
      StateFile.load (StateFile.save refusal f path s).1 path = StateFile.load f path) ∧
    ∃ (vault : Vault) (x : Flushing), Vault.load {} (.file "state.json") = .ok vault ∧
      x = (⟨vault, {}, .idle, 0⟩ : Flushing).run (.record "a" ⟨4, 1333333333, by decide, by decide⟩ :: flush none) ∧
      x.progress = .idle ∧ x.store.dirty = false ∧ x.load ≠ .ok x.store.snapshot := by
  constructor
  · intro h
    have htree : (({} : Files).put ["f"] (.text "")).Tree :=
      (Files.tree_of_empty rfl).put (by decide) rfl (.text "")
    have hsame := h _ "new/../f/state.json" none .empty ⟨"File exists (os error 17)", []⟩ htree (by decide)
    exact absurd hsame (by decide)
  · have hl : Vault.load {} (.file "state.json") = .ok ⟨⟨[], false⟩, .file "state.json"⟩ := rfl
    refine ⟨_, _, hl, rfl, by decide, by decide, fun hload => ?_⟩
    have hkept := ((kept_of_load hl (Files.tree_of_empty rfl) nofun).run
      (.record "a" ⟨4, 1333333333, by decide, by decide⟩ :: flush none)).agrees
    exact absurd (Except.ok.inj ((hkept (by decide)).symm.trans hload)) (by decide)

end Flushing

end Herald
