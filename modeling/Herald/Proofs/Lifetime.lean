import Herald.Proofs.Calm

/-!
# Lives over a backend

The life of an application over a backend: it loads the store, runs calmly until it was told to stop and the persister has returned, asks
the registry once more, takes all targets away, and flushes without a failure (`Persisting.Life`). What is loaded of an identity after
that is what the registry had of it before the targets were taken away, or what was loaded before if it was not registered
(`Life.restored_eq`). Over any number of lives that is told by `remembered`.

All of it needs a backend whose document is absent, or cannot be read, or is of the current version (`Persisting.Livable`), and every life
leaves one.
-/

namespace Herald

open Relation (ReflTransGen)

/-! ## What a backend holds -/

namespace Backend

/-- Whether a document is absent, cannot be read as one, or is of the current version. -/
def Holds (files : Files) : Backend → Prop
  | .file path =>
    files.read path = .error .notFound ∨
      ∃ text, files.read path = .ok text ∧ ∀ s, Snapshot.ofText? text = some s → s.version = Snapshot.currentVersion
  | .memory saved refusesLoad _ => refusesLoad = false ∧ ∀ s, saved = some s → s.version = Snapshot.currentVersion

/-- It is so exactly if a snapshot of the current version is loaded. -/
theorem holds_iff {files : Files} {b : Backend} :
    b.Holds files ↔ ∃ s, b.load files = .ok s ∧ s.version = Snapshot.currentVersion := by
  have hempty : Snapshot.empty.version = Snapshot.currentVersion := rfl
  cases b with
  | file path =>
    rw [Holds, load, StateFile.load]
    rcases files.read path with fault | text
    · cases fault with
      | notFound => exact ⟨fun _ => ⟨.empty, rfl, rfl⟩, fun _ => .inl rfl⟩
      | _ => simp
    · cases hread : Snapshot.ofText? text with
      | none => simp [hread, hempty]
      | some s => by_cases hs : s.version = Snapshot.currentVersion <;> simp [hread, hs]
  | memory saved refusesLoad refusesSave =>
    rw [Holds, load]
    cases refusesLoad with
    | true => simp
    | false =>
      cases saved with
      | none => simp [hempty]
      | some s => simp

end Backend

/-! ## What a backend is after a run -/

/-- Files that form a tree do so after a save, whether it succeeds or not. -/
theorem Backend.tree_attempt {files : Files} (h : files.Tree) (refusal : Option StateFile.Refusal) (s : Snapshot) (b : Backend) :
    (b.attempt refusal files s).2.1.Tree := by
  cases b with
  | file path => exact StateFile.tree_save h refusal path s
  | memory saved refusesLoad refusesSave =>
    rw [attempt]
    split <;> exact h

/-- They do so after a step of a flush. -/
theorem Flushing.tree_step {x : Flushing} (h : x.files.Tree) (a : FlushAction) : (x.step a).files.Tree := by
  cases a with
  | record | sync => exact h
  | clear =>
    rw [step]
    split
    · split <;> exact h
    · exact h
  | take =>
    rw [step]
    split <;> exact h
  | save refusal =>
    rw [step]
    split
    · exact Backend.tree_attempt h refusal _ _
    · exact h
  | settle =>
    rw [step]
    split <;> exact h

/-- They do so after a step of the persister. -/
theorem Follower.Step.tree {w : Traffic} {f f' : Follower} (hstep : Step w f f') (h : f.flushing.files.Tree) :
    f'.flushing.files.Tree := by
  cases hstep with
  | record | sync | advance => exact Flushing.tree_step h _
  | _ => exact h

namespace Persisting

/-- Files that form a tree do so after every run. -/
theorem Runs.tree {x y : Persisting} (hruns : Runs x y) (h : x.follower.flushing.files.Tree) : y.follower.flushing.files.Tree := by
  induction hruns with
  | refl => exact h
  | tail _ hstep ih =>
    cases hstep with
    | traffic hw => exact ih
    | follower hx => exact hx.tree ih

/-! ## The end of a life -/

/-- From when all answers are recorded for the last time: the targets of the store stay as they are. -/
structure Ending (targets : Keyed Instant) (f : Follower) : Prop where
  targets : f.store.targets = targets
  stage : f.stage = .recording [] .last ∨ (∃ left, f.stage = .flushing left .last) ∨ f.stage = .finished

/-- A step of the persister leaves them. -/
theorem Ending.step {loaded : Store} {targets : Keyed Instant} {w : Traffic} {f f' : Follower} (h : Ending targets f)
    (hf : f.Sound loaded w) (hstep : Follower.Step w f f') : Ending targets f' := by
  obtain ⟨htargets, hstage⟩ := h
  cases hstep with
  | flush hs ho refusal =>
    rcases hstage with hr | ⟨left, hr⟩ | hr
    · obtain ⟨_, rfl⟩ := Stage.recording.inj (hs.symm.trans hr)
      exact ⟨htargets, .inr (.inl ⟨_, rfl⟩)⟩
    · cases hs.symm.trans hr
    · cases hs.symm.trans hr
  | advance hs =>
    obtain ⟨refusal, hmem⟩ := (hf.flushing hs).phase.mem_flush
    rcases hstage with hr | ⟨left, hr⟩ | hr
    · cases hs.symm.trans hr
    · obtain ⟨_, rfl⟩ := Stage.flushing.inj (hs.symm.trans hr)
      exact ⟨(Flushing.targets_step_of_flush hmem _).trans htargets, .inr (.inl ⟨_, rfl⟩)⟩
    · cases hs.symm.trans hr
  | finish hs => exact ⟨htargets, .inr (.inr rfl)⟩
  | proceed hs ho =>
    rcases hstage with hr | ⟨left, hr⟩ | hr
    · cases hs.symm.trans hr
    · exact absurd (Stage.flushing.inj (hs.symm.trans hr)).2 ho
    · cases hs.symm.trans hr
  | resume hs | sync hs | collected hs | read hs | subscribe hs | lag hs | tick hs | leave hs | skip hs | drained hs =>
    rcases hstage with hr | ⟨left, hr⟩ | hr <;> cases hs.symm.trans hr
  | record hs | pass hs =>
    rcases hstage with hr | ⟨left, hr⟩ | hr <;> (rw [hr] at hs; cases hs)

/-- Every run leaves them. -/
theorem Ending.runs {loaded : Store} {targets : Keyed Instant} {x y : Persisting} (h : Ending targets x.follower) (hx : x.Sound loaded)
    (hruns : Runs x y) : Ending targets y.follower := by
  induction hruns with
  | refl => exact h
  | tail hbefore hstep ih =>
    have hsound := hx.runs hbefore
    cases hstep with
    | traffic hw => exact ih
    | follower hf => exact ih.step hsound.follower hf

/-- The life of an application over a backend, with what was registered at last, and with the files and the backend that it leaves. -/
inductive Life (files : Files) (backend : Backend) (last : Registry) (files' : Files) (backend' : Backend) : Prop
  | life {vault : Vault} {capacity : Nat} {x y z : Persisting} {left : List (String × Registration)}
    (hload : Vault.load files backend = .ok vault)
    -- it runs calmly, and the persister returns after the signal
    (hrun : CalmRuns (start vault files capacity) x) (hreturned : x.follower.stage = .finished) (hsignal : x.traffic.signalled)
    -- the registry is asked once more, and all answers are recorded
    (hasked : left.Perm x.traffic.registry.registered)
    (hclosing : CalmRuns ⟨x.traffic, x.follower.ask x.traffic left .last⟩ y) (hrecorded : y.follower.stage = .recording [] .last)
    -- the targets are taken away
    (hfree : y.traffic.entering = none) (hlast : last = y.traffic.registry)
    -- the store is flushed, without a failure
    (hflush : Runs ⟨{ y.traffic with registry := y.traffic.registry.removeAll }, y.follower⟩ z)
    (hended : z.follower.stage = .finished) (hok : z.follower.saved = true)
    (hfiles : files' = z.follower.flushing.files) (hbackend : backend' = z.follower.flushing.vault.backend) :
    Life files backend last files' backend'

/-- What a backend must be so that lives can be lived over it. -/
structure Livable (files : Files) (backend : Backend) : Prop where
  tree : files.Tree
  holds : backend.Holds files

/-- A document in memory is of the current version. -/
theorem Livable.version {files : Files} {backend : Backend} (h : Livable files backend) : ∀ saved refusesLoad refusesSave,
    backend = .memory (some saved) refusesLoad refusesSave → saved.version = Snapshot.currentVersion := by
  rintro saved refusesLoad refusesSave rfl
  exact h.holds.2 saved rfl

/-- The store is loaded. -/
theorem Livable.load {files : Files} {backend : Backend} (h : Livable files backend) : ∃ vault, Vault.load files backend = .ok vault := by
  obtain ⟨s, hs, _⟩ := Backend.holds_iff.mp h.holds
  rw [Vault.load, hs]
  exact ⟨_, rfl⟩

/-- After a life the backend gives back, for every identity, what it gives of the instant that the registry had of it before the targets were
taken away, or that was loaded if it was not registered; and another life can be lived over it. -/
theorem Life.restored_eq {files files' : Files} {backend backend' : Backend} {last : Registry} {vault : Vault}
    (h : Life files backend last files' backend') (hl : Vault.load files backend = .ok vault) (hb : Livable files backend) :
    ∃ vault', Vault.load files' backend' = .ok vault' ∧ Livable files' backend' ∧
      ∀ identity, vault'.store.restored identity = (last.lastKnown vault.store.restored identity).map backend.gives := by
  obtain @⟨vault₁, capacity, x, y, z, left, hload, hrun, hreturned, hsignal, hasked, hclosing, hrecorded, hfree, rfl, hflush, hended, hok,
    rfl, rfl⟩ := h
  obtain rfl := Except.ok.inj (hl.symm.trans hload)
  have htame := (tame_start hl hb.tree hb.version capacity).runs hrun
  have hheld : x.traffic.held = [] := (hrun.quiet rfl hsignal).1
  have hidle := (htame.sound.follower.finished hreturned).phase.1
  have hasking := htame.ask hidle hasked .last
  have htamed := hasking.runs hclosing
  have hcovered := (htame.covered_ask hsignal hheld hasked .last).runs hasking hclosing
  have hagrees := Covered.restored_eq htamed hfree hcovered hrecorded
  -- the flush leaves what the store has, and saves it
  have hremoved : Persisting.Sound vault.store ⟨{ y.traffic with registry := y.traffic.registry.removeAll }, y.follower⟩ :=
    htamed.sound.step (.traffic (.removeAll hfree))
  have hending : Ending y.store.targets z.follower := by
    refine Ending.runs ?_ hremoved hflush
    exact ⟨rfl, .inl hrecorded⟩
  have hsound := hremoved.runs hflush
  obtain ⟨hidle', hsaved⟩ := (hsound.follower.finished hended).phase
  have hkept := hsound.follower.kept.agrees
  rw [hidle'] at hkept
  have hkind (path : String) : z.follower.flushing.vault.backend = .file path ↔ backend = .file path := by
    rw [Runs.backend_eq_file_iff hflush, ← Vault.backend_of_load hl]
    exact (Runs.backend_eq_file_iff hclosing.runs).trans (Runs.backend_eq_file_iff hrun.runs)
  have hdocument : z.follower.flushing.vault.backend.load z.follower.flushing.files = .ok (backend.givesBack z.store.snapshot) :=
    (hkept (hsaved hok)).trans (congrArg _ (Backend.givesBack_congr hkind _))
  have hversion : (backend.givesBack z.store.snapshot).version = Snapshot.currentVersion := backend.version_givesBack _
  refine ⟨⟨.ofSnapshot (backend.givesBack z.store.snapshot), z.follower.flushing.vault.backend⟩, ?_,
    ⟨?_, Backend.holds_iff.mpr ⟨_, hdocument, hversion⟩⟩, ?_⟩
  · rw [Vault.load, hdocument]
    rfl
  · have hruns := hrun.runs.tree hb.tree
    have hclosed := hclosing.runs.tree (y := y) hruns
    exact hflush.tree hclosed
  · intro identity
    have hsame : z.store.targets = y.store.targets := hending.targets
    have hrestored : z.store.targets.get? identity = y.store.restored identity := congrArg (Keyed.get? identity) hsame
    rw [← hagrees identity, ← hrestored]
    exact backend.get?_givesBack z.store.snapshot identity

/-! ## One life after the other -/

/-- Any number of lives, one after the other, with what was registered at the end of each. What a file is to give back of them a clock can
show. -/
inductive Lives (files : Files) (backend : Backend) : List Registry → Files → Backend → Prop
  | none : Lives files backend [] files backend
  | more {lasts : List Registry} {last : Registry} {files₁ files₂ : Files} {backend₁ backend₂ : Backend}
      (h : Lives files backend lasts files₁ backend₁) (hlife : Life files₁ backend₁ last files₂ backend₂)
      (hclock : ∀ path, backend₁ = .file path → ∀ a ∈ last.activations, a.2.OnClock) :
      Lives files backend (lasts ++ [last]) files₂ backend₂

/-- What is remembered of an identity after some lives: what the last registry had in which it was registered, or else what was loaded
at first. -/
def remembered (loaded : Store) (lasts : List Registry) : String → Option Instant :=
  lasts.foldl (fun known last => last.lastKnown known) loaded.restored

/-- After any number of lives the backend is loaded, gives back what is remembered, and can be lived over again. -/
theorem Lives.restored_eq {files files' : Files} {backend backend' : Backend} {vault : Vault} {lasts : List Registry}
    (h : Lives files backend lasts files' backend') (hl : Vault.load files backend = .ok vault) (hlivable : Livable files backend) :
    ∃ vault', Vault.load files' backend' = .ok vault' ∧ Livable files' backend' ∧
      vault'.store.restored = remembered vault.store lasts := by
  induction h with
  | none => exact ⟨vault, hl, hlivable, rfl⟩
  | @more lasts last files₁ files₂ backend₁ backend₂ hlives hlife hclock ih =>
    obtain ⟨vault₁, hl₁, hlivable₁, hrestored⟩ := ih
    obtain ⟨vault₂, hl₂, hlivable₂, hlast⟩ := hlife.restored_eq hl₁ hlivable₁
    refine ⟨vault₂, hl₂, hlivable₂, funext fun identity => ?_⟩
    have hgiven : (last.lastKnown vault₁.store.restored identity).map backend₁.gives = last.lastKnown vault₁.store.restored identity := by
      cases ht : last.lastKnown vault₁.store.restored identity with
      | none => rfl
      | some t =>
        refine congrArg some (Backend.gives_of_onClock fun path hfile => ?_)
        subst hfile
        exact Registry.onClock_of_lastKnown (hclock path rfl) (Flushing.onClock_of_load hl₁) ht
    rw [hlast identity, hgiven, hrestored, remembered, remembered, List.foldl_append]
    rfl

/-! ## What is shown at first -/

/-- Before the first stamp a registered target shows what was loaded for it. -/
theorem Tame.lastNotified_eq {loaded : Store} {x : Persisting} (h : x.Tame loaded) (hg : x.traffic.given = []) {identity : String}
    {e : Registration} (he : x.traffic.registry.resolve identity = some e) :
    x.traffic.registry.lastNotified e.place = loaded.restored identity := by
  have howner := (h.placed.registered (Keyed.mem_of_get? he)).2
  have hshown {t : Instant} (ht : x.traffic.registry.lastNotified e.place = some t) : loaded.restored identity = some t := by
    rcases h.sound.traffic.stamps howner ht with hl | ⟨g, hmem, _⟩
    · exact hl
    · rw [hg] at hmem
      cases hmem
  cases hl : loaded.restored identity with
  | some t =>
    obtain ⟨u, hu, _⟩ := h.registered he hl
    rw [hu, ← hl, hshown hu]
  | none =>
    cases ht : x.traffic.registry.lastNotified e.place with
    | none => rfl
    | some t =>
      have hl' := hshown ht
      rw [hl] at hl'
      cases hl'

end Persisting

end Herald
