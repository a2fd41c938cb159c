import Herald.Proofs.Uninterrupted

/-!
# The persister loses nothing and invents nothing

The steps of the persister (`Follower.Step`) and all others (`Traffic.Step`) in any order. When the persister returns, its store has
everything that the registry reported at last and everything that was received; all that it has was loaded or given; it never took back
anything; and if the last flush did not fail, the backend gives it back. The bus may drop events at any time: what a registered target was
given is found at its place.
-/

namespace Herald

open Relation (ReflTransGen)

/-- The persister among everything else. -/
structure Persisting where
  traffic : Traffic
  follower : Follower

namespace Persisting

/-- The store that is kept. -/
abbrev store (x : Persisting) : Store :=
  x.follower.store

/-- Before anything happened but that the store was loaded. -/
def start (vault : Vault) (files : Files) (capacity : Nat) : Persisting where
  traffic := { bus := .ofCapacity capacity }
  follower := { flushing := ⟨vault, files, .idle, 0⟩ }

/-- One step of anybody. -/
inductive Step : Persisting → Persisting → Prop
  | traffic {w w' : Traffic} {x : Follower} (h : Traffic.Step x.store w w') : Step ⟨w, x⟩ ⟨w', x⟩
  | follower {w : Traffic} {x x' : Follower} (h : Follower.Step w x x') : Step ⟨w, x⟩ ⟨w, x'⟩

/-- Any number of steps. -/
abbrev Runs : Persisting → Persisting → Prop :=
  ReflTransGen Step

/-- Steps of the others are steps. -/
theorem runs_traffic {w w' : Traffic} {x : Follower} (h : ReflTransGen (Traffic.Step x.store) w w') : Runs ⟨w, x⟩ ⟨w', x⟩ := by
  induction h with
  | refl => exact .refl
  | tail _ hstep ih => exact ih.tail (.traffic hstep)

/-- Steps of the persister are steps. -/
theorem runs_follower {w : Traffic} {x x' : Follower} (h : ReflTransGen (Follower.Step w) x x') : Runs ⟨w, x⟩ ⟨w, x'⟩ := by
  induction h with
  | refl => exact .refl
  | tail _ hstep ih => exact ih.tail (.follower hstep)

/-- What all steps keep, from what was loaded on. -/
structure Sound (loaded : Store) (x : Persisting) : Prop where
  traffic : x.traffic.Sound loaded
  follower : x.follower.Sound loaded x.traffic

/-- A step of anybody keeps it: the others look up in the store what is accounted for, and take back nothing the persister relies on. -/
theorem Sound.step {loaded : Store} {x x' : Persisting} (h : x.Sound loaded) (hstep : Step x x') : x'.Sound loaded := by
  cases hstep with
  | traffic hw => exact ⟨h.traffic.step h.follower.accounted hw, h.follower.grown hw.grown⟩
  | follower hx => exact ⟨h.traffic, h.follower.step h.traffic hx⟩

/-- Every run keeps it. -/
theorem Sound.runs {loaded : Store} {x x' : Persisting} (h : x.Sound loaded) (hruns : Runs x x') : x'.Sound loaded := by
  induction hruns with
  | refl => exact h
  | tail _ hstep ih => exact ih.step hstep

/-- No run lowers what the store has. -/
theorem Sound.reaches {loaded : Store} {x x' : Persisting} (h : x.Sound loaded) (hruns : Runs x x') {identity : String} {t : Instant}
    (hr : x.store.Reaches identity t) : x'.store.Reaches identity t := by
  induction hruns with
  | refl => exact hr
  | tail hbefore hstep ih =>
    have hsound := h.runs hbefore
    cases hstep with
    | traffic hw => exact ih
    | follower hx => exact hx.reaches hsound.follower ih

/-- A run leaves a backend of its kind. -/
theorem Runs.backend_eq_file_iff {x y : Persisting} (hruns : Runs x y) {path : String} :
    y.follower.flushing.vault.backend = .file path ↔ x.follower.flushing.vault.backend = .file path := by
  induction hruns with
  | refl => exact Iff.rfl
  | tail _ hstep ih =>
    refine Iff.trans ?_ ih
    cases hstep with
    | traffic hw => exact Iff.rfl
    | follower hx =>
      cases hx with
      | record | sync | advance => exact Flushing.backend_step_eq_file_iff _ _
      | _ => exact Iff.rfl

section Start

variable {files : Files} {backend : Backend} {vault : Vault} (hl : Vault.load files backend = .ok vault) (ht : files.Tree)
  (hv : ∀ saved refusesLoad refusesSave, backend = .memory (some saved) refusesLoad refusesSave →
    saved.version = Snapshot.currentVersion) (capacity : Nat)
include hl ht hv

/-- It is so at the start. -/
theorem sound_start : (start vault files capacity).Sound vault.store where
  traffic := Traffic.sound_of_bus rfl vault.store
  follower := {
    kept := Flushing.kept_of_load hl ht hv
    position := Nat.zero_le _
    accounted := fun h => .inl h
    received := fun h => absurd h List.not_mem_nil
    due := fun h => absurd h List.not_mem_nil
    stands := rfl }

/-- When the persister returns, whatever happened before and in whatever order: the store has at least what the registry reported when it
was last asked, which is at least what it had and what was stamped on registered targets when the asking began, and at least what the
bus handed over; what the store has was loaded or stamped; on the way it never decreased or disappeared; and if the last flush did not
fail, the backend gives back the store, and just as it is if it is in memory or if a clock can show what was stamped. -/
theorem loses_nothing_and_invents_nothing {x : Persisting} (hx : Runs (start vault files capacity) x)
    (hf : x.follower.stage = .finished) :
    (∀ identity t, (identity, t) ∈ x.follower.reported ∨ (identity, t) ∈ x.follower.asked ∨ (identity, t) ∈ x.follower.received →
      x.store.Reaches identity t) ∧
    (∀ g ∈ x.follower.due, x.store.Reaches g.identity g.time) ∧
    (∀ identity t, x.store.restored identity = some t → Accounted vault.store x.traffic.given identity t) ∧
    (∀ y z, Runs (start vault files capacity) y → Runs y z → Runs z x → ∀ identity t, y.store.restored identity = some t →
      z.store.Reaches identity t) ∧
    (x.follower.saved = true → x.follower.flushing.load = .ok (backend.givesBack x.store.snapshot) ∧
      ((∀ path, backend = .file path → ∀ g ∈ x.traffic.given, g.time.OnClock) →
        x.follower.flushing.load = .ok x.store.snapshot)) := by
  have hstart := sound_start hl ht hv capacity
  obtain ⟨_, hsound⟩ := hstart.runs hx
  obtain ⟨⟨hidle, hsaved⟩, hanswered, hrecorded⟩ := hsound.finished hf
  have hasked : ∀ {identity t}, (identity, t) ∈ x.follower.asked → x.store.Reaches identity t := by
    intro identity t ha
    obtain ⟨t', hreported, hle⟩ := hanswered ha
    exact (hrecorded hreported).of_le hle
  refine ⟨?_, ?_, fun _ _ => hsound.accounted, ?_, ?_⟩
  · rintro identity t (hreported | ha | hreceived)
    · exact hrecorded hreported
    · exact hasked ha
    · exact hsound.received hreceived
  · intro g hg
    obtain ⟨t, ha, hle⟩ := hsound.due hg
    exact (hasked ha).of_le hle
  · intro y z hy hyz _ identity t hr
    exact (hstart.runs hy).reaches hyz ⟨t, hr, Std.le_refl t⟩
  · intro hok
    have hagrees := hsound.kept.agrees
    rw [hidle] at hagrees
    have hkind {path : String} : x.follower.flushing.vault.backend = .file path ↔ backend = .file path := by
      rw [Runs.backend_eq_file_iff hx, ← Vault.backend_of_load hl]
      exact Iff.rfl
    have hload := hagrees (hsaved hok)
    rw [Backend.givesBack_congr fun path => hkind] at hload
    refine ⟨hload, fun hclock => ?_⟩
    rw [hload, Backend.givesBack_of_onClock fun path hb p hp => ?_]
    subst hb
    -- what stands in the store of a file was read from it or was stamped
    rcases hsound.accounted (hsound.kept.get?_of_mem (hkind.mpr rfl) hp) with hloaded | ⟨g, hg, -, ht⟩
    · exact Flushing.onClock_of_load hl hloaded
    · exact ht ▸ hclock path rfl g hg

/-- Whatever happened before, the persister can return when it was told to stop. -/
theorem can_return {x : Persisting} (hx : Runs (start vault files capacity) x) (hs : x.traffic.signalled) :
    ∃ x', Runs x x' ∧ x'.follower.stage = .finished := by
  obtain ⟨htraffic, hfollower⟩ := (sound_start hl ht hv capacity).runs hx
  obtain ⟨follower, hsteps, hfinished⟩ := hfollower.returns htraffic hs
  exact ⟨⟨x.traffic, follower⟩, runs_follower hsteps, hfinished⟩

end Start

/-- A target is stamped, and before the stamp is published the persister is told to stop: it receives nothing, and saves the stamp. -/
theorem unpublished_stamp_is_saved :
    ∃ (vault : Vault) (x : Persisting), Vault.load {} (.file "state.json") = .ok vault ∧ Runs (start vault {} 1) x ∧
      x.follower.stage = .finished ∧ x.follower.received = [] ∧ x.traffic.unpublished = [("a", .epoch)] ∧
      x.store.Reaches "a" .epoch ∧ x.follower.flushing.load = .ok x.store.snapshot := by
  have hl : Vault.load {} (.file "state.json") = .ok ⟨⟨[], false⟩, .file "state.json"⟩ := rfl
  let vault : Vault := ⟨⟨[], false⟩, .file "state.json"⟩
  have hsubscribe : Runs (start vault {} 1) _ := .single (.follower (.subscribe rfl))
  -- the target is registered and stamped, and the stamp is not published
  have harrive := ReflTransGen.single (Traffic.Step.arrive (s := vault.store) (w := (start vault {} 1).traffic) "a"
    { channel := .log } (.inl rfl))
  have hinstall := (harrive.tail (.enter [] [] rfl rfl)).tail (.install rfl rfl)
  have hstamp := (hinstall.tail (.hold "a" (e := ⟨"a", 0, 0, { channel := .log }⟩) rfl)).tail (.stamp [] [] rfl .epoch)
  have hsignal := hsubscribe.trans (runs_traffic (hstamp.tail .signal))
  -- the persister leaves, asks the registry, and saves
  have hleave := hsignal.tail (.follower (.leave rfl (.inl rfl)))
  have hdrained := hleave.tail (.follower (.drained rfl (Bus.receive_size _) (.refl _)))
  have hasked := hdrained.trans (runs_follower (Follower.steps_ask _ .last))
  have hflushed := hasked.trans (runs_follower (Follower.steps_flush rfl nofun))
  have hx := hflushed.tail (.follower (.finish rfl))
  obtain ⟨hreaches, _, _, _, hsaved⟩ := loses_nothing_and_invents_nothing hl (Files.tree_of_empty rfl) nofun 1 hx rfl
  have hclock : ∀ g ∈ [(⟨"a", 0, .epoch⟩ : Stamped)], g.time.OnClock := List.forall_mem_singleton.mpr (by decide)
  exact ⟨vault, _, hl, hx, rfl, rfl, rfl, hreaches "a" .epoch (.inr (.inl (by decide))), (hsaved (by decide)).2 fun _ _ => hclock⟩

end Persisting

end Herald
