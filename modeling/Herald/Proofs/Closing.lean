import Herald.App
import Herald.Proofs.Lifetime
import Herald.Proofs.PointwiseMaximum

/-!
# The end of a run

When all background tasks have ended, the activations of the registry are recorded, the targets are released and the store is flushed
(`App.close`). The tasks may have broken off anywhere, the persister too as long as no flush was on its way, the targets may not be
releasable, and the save may fail: all of it is done nevertheless, and what went wrong is told (`App.Completed`).
-/

namespace Herald

open Relation (ReflTransGen)

/-! ## The last flush -/

namespace Vault

/-- Saves the store if it has the mark, where the disk, or whatever the backend is, may refuse. -/
def flushOn (refusal : Option StateFile.Refusal) (v : Vault) (files : Files) : Vault × Files × Except Failure Unit :=
  if !v.store.dirty then (v, files, .ok ())
  else
    let clean := v.store.unmark
    match v.backend.attempt refusal files clean.snapshot with
    | (backend, files, .ok ()) => (⟨clean, backend⟩, files, .ok ())
    | (backend, files, .error failure) => (⟨clean.mark, backend⟩, files, .error failure)

/-- Where nothing is refused, that is a flush. -/
theorem flushOn_none (v : Vault) (files : Files) : v.flushOn none files = v.flush files := by
  have hattempt : v.backend.attempt none files v.store.unmark.snapshot = v.backend.save files v.store.unmark.snapshot :=
    v.backend.attempt_none files _
  cases hd : v.store.dirty with
  | false => simp only [flushOn, flush, hd, Bool.not_false, if_true]
  | true =>
    rcases hs : v.backend.save files v.store.unmark.snapshot with ⟨backend, files', failure | _⟩ <;>
      simp only [flushOn, flush, hd, hattempt, hs, Bool.not_true, Bool.false_eq_true, if_false]

end Vault

namespace Flushing

/-- A flush that does not fail leaves the backend so that it gives back the store. -/
theorem Kept.load_flushOn {x : Flushing} (h : x.Kept) (hidle : x.progress = .idle) {refusal : Option StateFile.Refusal}
    (hok : (x.vault.flushOn refusal x.files).2.2 = .ok ()) :
    (x.vault.flushOn refusal x.files).1.backend.load (x.vault.flushOn refusal x.files).2.1 =
      .ok (x.vault.backend.givesBack x.store.snapshot) := by
  unfold Vault.flushOn at hok ⊢
  cases hd : x.vault.store.dirty with
  | false =>
    -- nothing is to be saved, since the backend has it already
    have hagrees := h.agrees
    rw [hidle] at hagrees
    exact hagrees hd
  | true =>
    have hsnapshot : x.vault.store.unmark.snapshot = x.store.snapshot := rfl
    simp only [hd, Bool.not_true, Bool.false_eq_true, if_false, hsnapshot] at hok ⊢
    rcases hs : x.vault.backend.attempt refusal x.files x.store.snapshot with ⟨backend, files, failure | _⟩
    · simp only [hs] at hok
      cases hok
    · have hload := Backend.load_attempt h.keeps rfl (congrArg (·.2.2) hs)
      rw [hs] at hload
      exact hload

end Flushing

/-! ## The tasks -/

namespace Supervisor

/-- The tasks are kept in the order in which they were spawned. -/
theorem tasks_foldl_spawn (s : Supervisor) (spawned : List Task) : (spawned.foldl spawn s).tasks = s.tasks ++ spawned := by
  induction spawned generalizing s with
  | nil => exact (List.append_nil _).symm
  | cons t rest ih =>
    rw [List.foldl_cons, ih, spawn, List.append_assoc]
    rfl

end Supervisor

/-! ## The end -/

namespace App

/-- What is left to do when all tasks have ended, over what the persister has left: the activations are recorded, the targets are released,
and the store is flushed, which may be refused. -/
def close (a : App) (refusal : Option StateFile.Refusal) (vault : Vault) (files : Files) : Shutdown :=
  let (panicked, _) := a.supervisor.shutdown
  let vault := vault.modify fun s => s.sync a.activations
  let (hub, teardowns) := a.hub.clear
  let (vault, files, flushed) := vault.flushOn refusal files
  let result := match flushed with
    | .error failure => .error (failure.context flushReason)
    | .ok () => if panicked.isEmpty then .ok () else .error ⟨panickedReason panicked, []⟩
  { hub, vault, files, teardowns, result }

/-- How the last flush comes out. -/
def closingFlush (a : App) (refusal : Option StateFile.Refusal) (vault : Vault) (files : Files) : Except Failure Unit :=
  ((vault.modify fun s => s.sync a.activations).flushOn refusal files).2.2

/-- What a persister that runs leaves at its end, or one that has broken off long since. -/
def left (a : App) (files : Files) : Persister × Files :=
  if a.persists then a.persister.finish a.hub.bus a.activations files else (a.persister, files)

/-- A shutdown ends so, over what the persister has left. -/
theorem shutdown_eq_close (a : App) (files : Files) : a.shutdown files = a.close none (a.left files).1.vault (a.left files).2 := by
  unfold shutdown close
  simp only [Vault.flushOn_none]
  rfl

/-- What has been done when a run with some tasks has ended over a hub, and the last flush has come out in some way. -/
structure Completed (h : Hub) (spawned : List Task) (flushed : Except Failure Unit) (done : Shutdown) : Prop where
  /-- No target is left. -/
  emptied : done.hub.registry.size = 0
  /-- Every target was released once. -/
  released : (done.teardowns.map (·.registration)).Perm (h.registry.registered.map (·.2))
  /-- They were released in the order of discovery. -/
  ordered : done.teardowns.Pairwise fun s t => s.registration.place < t.registration.place
  /-- What came of it is told by the target. -/
  came : ∀ t ∈ done.teardowns, t.result = t.registration.target.teardown
  /-- All is well exactly if the flush did not fail and no task broke off. -/
  isOk : done.result = .ok () ↔ flushed = .ok () ∧ ∀ task ∈ spawned, task.panicked = false
  /-- Of what went wrong the flush counts first. -/
  failed : ∀ failure, flushed = .error failure → done.result = .error (failure.context flushReason)
  /-- Then come the tasks that broke off, in the order in which they were spawned. -/
  panicked : flushed = .ok () → (∃ task ∈ spawned, task.panicked = true) →
    done.result = .error ⟨panickedReason ((spawned.filter (·.panicked)).map (·.name)), []⟩
  /-- If the flush did not fail, no activation that was shown is lost. -/
  saved : flushed = .ok () → ∃ s, done.vault.backend.load done.files = .ok s ∧
    ∀ identity e t, h.registry.resolve identity = some e → h.registry.lastNotified e.place = some t →
      ∃ t', s.targets.get? identity = some t' ∧ t ≤ t'

variable {a : App} {x : Flushing} {spawned : List Task}

/-- Over a store that its backend agrees with, everything is done. -/
theorem completed_close (hr : a.hub.registry.Sound) (hs : a.supervisor = spawned.foldl Supervisor.spawn {}) (hx : x.Kept)
    (hidle : x.progress = .idle) (refusal : Option StateFile.Refusal) :
    Completed a.hub spawned (a.closingFlush refusal x.vault x.files) (a.close refusal x.vault x.files) := by
  have htasks : a.supervisor.tasks = spawned := by rw [hs, Supervisor.tasks_foldl_spawn]; rfl
  have hpanicked : a.supervisor.shutdown.1 = (spawned.filter (·.panicked)).map (·.name) := by rw [Supervisor.shutdown, htasks]
  have hteardowns : (a.close refusal x.vault x.files).teardowns = a.hub.registry.discovered.map a.hub.registry.removeAll.tearDown := rfl
  have hregistrations : (a.close refusal x.vault x.files).teardowns.map (·.registration) = a.hub.registry.discovered := by
    rw [hteardowns, List.map_map]
    exact List.map_id _
  have hresult : (a.close refusal x.vault x.files).result =
      match a.closingFlush refusal x.vault x.files with
      | .error failure => .error (failure.context flushReason)
      | .ok () => if a.supervisor.shutdown.1.isEmpty then .ok () else .error ⟨panickedReason a.supervisor.shutdown.1, []⟩ := rfl
  have hnone : a.supervisor.shutdown.1.isEmpty = true ↔ ∀ task ∈ spawned, task.panicked = false := by
    rw [hpanicked, List.isEmpty_iff, List.map_eq_nil_iff, List.filter_eq_nil_iff]
    simp only [Bool.not_eq_true]
  constructor
  case emptied => rfl
  case released =>
    rw [hregistrations]
    exact Registry.discovered_perm _
  case ordered =>
    rw [hteardowns]
    exact List.pairwise_map.mpr hr.discovered_sorted
  case came =>
    intro t ht
    rw [hteardowns] at ht
    obtain ⟨e, -, rfl⟩ := List.mem_map.mp ht
    rfl
  case isOk =>
    rw [hresult, ← hnone]
    cases a.closingFlush refusal x.vault x.files with
    | error failure => exact ⟨fun h => (by cases h), fun h => (by cases h.1)⟩
    | ok _ =>
      dsimp only
      split
      · next hempty => exact ⟨fun _ => ⟨rfl, hempty⟩, fun _ => rfl⟩
      · next hempty => exact ⟨fun h => (by cases h), fun h => absurd h.2 hempty⟩
  case failed =>
    intro failure hf
    rw [hresult, hf]
  case panicked =>
    rintro hf ⟨task, hmem, htask⟩
    have hsome : ¬a.supervisor.shutdown.1.isEmpty = true := by
      intro hempty
      cases htask.symm.trans (hnone.mp hempty task hmem)
    rw [hresult, hf, ← hpanicked]
    exact if_neg hsome
  case saved =>
    intro hf
    have hkept := hx.step (.sync a.activations)
    refine ⟨_, hkept.load_flushOn hidle hf, fun identity e t he ht => ?_⟩
    obtain ⟨last, hlast, hle⟩ :=
      Store.reaches_sync (s := x.store) (Registry.mem_activations.mpr ⟨e, hr.resolve_eq_some_iff.mp he, ht⟩)
    refine ⟨x.vault.backend.gives last, ?_, Std.le_trans hle (Backend.le_gives _ last)⟩
    exact (Backend.get?_givesBack _ _ identity).trans (congrArg _ hlast)

open Persisting in
/-- Whatever had happened when a run was told to stop: the persister can come to its end; and wherever it has come to or broken off, with no
flush on its way, and whichever tasks broke off, targets cannot be released, and steps of the last save are refused, everything that is to
be done at the end is done. A shutdown is such an end, of a persister that ran or of one that had broken off before. -/
theorem shutdown_completes {files : Files} {backend : Backend} {vault : Vault} (hl : Vault.load files backend = .ok vault)
    (hlivable : Livable files backend) (capacity : Nat) {y : Persisting} (hy : Runs (start vault files capacity) y)
    (hsignal : y.traffic.signalled = true) (ha : y.traffic.Shows a.hub) (hs : a.supervisor = spawned.foldl Supervisor.spawn {}) :
    y.follower.Returns y.traffic ∧
    (∀ f, ReflTransGen (Follower.Step y.traffic) y.follower f → f.flushing.progress = .idle → ∀ refusal,
      Completed a.hub spawned (a.closingFlush refusal f.flushing.vault f.flushing.files)
        (a.close refusal f.flushing.vault f.flushing.files)) ∧
    ∀ stage now, y.follower.At stage a.persister now → (a.persists = true → stage = .following) →
      ∃ f, ReflTransGen (Follower.Step y.traffic) y.follower f ∧ f.flushing.progress = .idle ∧
        (a.persists = true → f.stage = .finished) ∧ a.shutdown now = a.close none f.flushing.vault f.flushing.files := by
  obtain ⟨htraffic, hfollower⟩ := (sound_start hl hlivable.tree hlivable.version capacity).runs hy
  have hregistry : a.hub.registry.Sound := ha.registry ▸ ((steady_start vault files capacity).runs hy).placed.sound
  refine ⟨hfollower.returns htraffic hsignal, fun f hf hidle refusal => ?_, fun stage now hat hpersists => ?_⟩
  · exact completed_close hregistry hs (hfollower.steps htraffic hf).kept hidle refusal
  · rw [shutdown_eq_close, left]
    cases hp : a.persists with
    | false => exact ⟨y.follower, .refl, hat.idle, fun h => (by cases h), by rw [hat.vault, hat.files]; rfl⟩
    | true =>
      obtain rfl := hpersists hp
      obtain ⟨f, hsteps, hfinished⟩ := hat.finish (hat.position ▸ hfollower.position) hsignal
      rw [ha.bus, ha.registry] at hfinished
      exact ⟨f, hsteps, hfinished.idle, fun _ => hfinished.stage, by rw [hfinished.vault, hfinished.files]; rfl⟩

open Persisting in
/-- A target is stamped, and its stamp is neither published nor recorded when the persister breaks off; the target cannot be released either.
The stamp is saved, and the persister is told to have broken off. -/
theorem broken_off_persister_loses_nothing :
    ∃ (vault : Vault) (y : Persisting) (a : App) (done : Shutdown),
      Vault.load {} (.file "state.json") = .ok vault ∧ Runs (start vault {} 1) y ∧ y.follower.stage = .following ∧
      y.follower.received = [] ∧ y.traffic.Shows a.hub ∧ a.supervisor.tasks = [⟨loggerName, false⟩, ⟨persisterName, true⟩] ∧
      done = a.close none y.follower.flushing.vault y.follower.flushing.files ∧
      done.teardowns.map (·.result) = [.error ⟨"stuck", []⟩] ∧
      done.result = .error ⟨"background tasks panicked: StatePersister", []⟩ ∧
      ∃ s t, done.vault.backend.load done.files = .ok s ∧ s.targets.get? "a" = some t ∧ .epoch ≤ t := by
  let vault : Vault := ⟨⟨[], false⟩, .file "state.json"⟩
  have hl : Vault.load {} (.file "state.json") = .ok vault := rfl
  have hlivable : Livable {} (.file "state.json") := ⟨Files.tree_of_empty rfl, .inl rfl⟩
  let brittle : Target := { channel := .custom ⟨"brittle", fun _ => .sent, some (.error ⟨"stuck", []⟩)⟩ }
  have hsubscribe : Runs (start vault {} 1) _ := .single (.follower (.subscribe rfl))
  -- the target is registered and stamped, and the persister is told to stop
  have harrive := ReflTransGen.single (Traffic.Step.arrive (s := vault.store) (w := (start vault {} 1).traffic) "a" brittle (.inl rfl))
  have hinstall := (harrive.tail (.enter [] [] rfl rfl)).tail (.install rfl rfl)
  have hstamp := (hinstall.tail (.hold "a" (e := ⟨"a", 0, 0, brittle⟩) rfl)).tail (.stamp [] [] rfl .epoch)
  let registry : Registry := ⟨[("a", ⟨"a", 0, 0, brittle⟩)], [some .epoch], 1⟩
  let traffic : Traffic := {
    registry
    bus := .ofCapacity 1
    unpublished := [("a", .epoch)]
    signalled := true
    owners := ["a"]
    given := [⟨"a", 0, .epoch⟩] }
  let y : Persisting := ⟨traffic, { flushing := ⟨vault, {}, .idle, 0⟩, stage := .following }⟩
  have hy : Runs (start vault {} 1) y := hsubscribe.trans (runs_traffic (hstamp.tail .signal))
  let a : App := {
    hub := { registry, bus := .ofCapacity 1, pool := .ofWorkers 1 }
    persister := ⟨vault, 0⟩
    persists := false
    supervisor := (Supervisor.spawn {} ⟨loggerName, false⟩).spawn ⟨persisterName, true⟩
    defaultTimeout := none }
  have ha : y.traffic.Shows a.hub := ⟨rfl, rfl, rfl, rfl⟩
  let spawned : List Task := [⟨loggerName, false⟩, ⟨persisterName, true⟩]
  have hspawned : a.supervisor = spawned.foldl Supervisor.spawn {} := rfl
  obtain ⟨-, hends, -⟩ := shutdown_completes hl hlivable 1 hy rfl ha hspawned
  have hcompleted : Completed a.hub spawned (a.closingFlush none vault {}) (a.close none vault {}) := hends y.follower .refl rfl none
  have hflush : a.closingFlush none vault {} = .ok () := by decide
  have hpanicked := hcompleted.panicked hflush ⟨⟨persisterName, true⟩, List.mem_cons_of_mem _ List.mem_cons_self, rfl⟩
  obtain ⟨s, hload, hsaved⟩ := hcompleted.saved hflush
  obtain ⟨t, ht, hle⟩ := hsaved "a" ⟨"a", 0, 0, brittle⟩ .epoch rfl rfl
  -- there is one target to be released
  obtain ⟨u, hteardowns, hu⟩ := List.map_eq_singleton_iff.mp (List.perm_singleton.mp hcompleted.released)
  have hresults : (a.close none vault {}).teardowns.map (·.result) = [.error ⟨"stuck", []⟩] := by
    have hstuck := hcompleted.came u (hteardowns ▸ List.mem_singleton_self u)
    rw [hu] at hstuck
    exact (congrArg (List.map (·.result)) hteardowns).trans (congrArg (fun r => [r]) hstuck)
  exact ⟨vault, y, a, a.close none vault {}, hl, hy, rfl, rfl, ha, rfl, rfl, hresults, hpanicked, s, t, hload, ht, hle⟩

end App

end Herald
