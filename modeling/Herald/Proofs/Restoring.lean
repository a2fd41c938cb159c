import Herald.App
import Herald.Proofs.RegistrySound

/-!
# Restoring what was saved

A registration restores what the store has for its identity. As long as nothing is stamped and the store stays as it is, every target that
is found shows just that (`Registry.Mirrors`): a place that is taken over shows it already, and a new one shows nothing else. So it is of
an application when it is built, because building is nothing but registering (`App.exists_of_build`).
-/

namespace Herald

namespace Registry

/-- Whether every target that is found shows what a store has for its identity. -/
structure Mirrors (s : Store) (r : Registry) : Prop where
  sound : r.Sound
  shown : ∀ {identity : String} {e : Registration}, r.resolve identity = some e → r.lastNotified e.place = s.restored identity

variable {s : Store} {r : Registry}

/-- A registry without targets shows nothing. -/
theorem mirrors_of_empty (h : r.registered = []) (s : Store) : r.Mirrors s where
  sound := sound_of_empty h
  shown := by
    intro identity e he
    rw [resolve, h] at he
    cases he

/-- What the place of an identity shows before its target is registered: nothing, or what the store has. -/
theorem Mirrors.lastNotified_allocate (h : r.Mirrors s) (identity : String) :
    r.lastNotified (r.allocate identity).1 = none ∨ r.lastNotified (r.allocate identity).1 = s.restored identity := by
  cases he : r.resolve identity with
  | none =>
    rw [allocate_of_resolve_none he, lastNotified, List.getElem?_eq_none (Nat.le_refl _)]
    exact .inl rfl
  | some e =>
    rw [allocate_of_resolve he]
    exact .inr (h.shown he)

/-- Registering a target with what the store has. -/
theorem Mirrors.register (h : r.Mirrors s) (identity : String) (target : Target) :
    (r.register (s.restored identity) identity target).1.Mirrors s where
  sound := h.sound.register _ identity target
  shown := by
    intro other e he
    rw [resolve_register] at he
    rw [h.sound.lastNotified_register]
    by_cases ho : other = identity
    · subst ho
      rw [if_pos rfl] at he
      obtain rfl := Option.some.inj he
      refine (if_pos rfl).trans ?_
      change Instant.latest (r.lastNotified (r.allocate other).1) (s.restored other) = s.restored other
      rcases h.lastNotified_allocate other with hnone | hsame
      · rw [hnone, Instant.none_latest]
      · rw [hsame, Instant.latest_self]
    · rw [if_neg ho] at he
      have hplace : e.place ≠ (r.allocate identity).1 :=
        h.sound.place_ne_allocate (h.sound.resolve_eq_some_iff.mp he) ho
      rw [if_neg hplace]
      exact h.shown he

/-- Removing a target. -/
theorem Mirrors.remove (h : r.Mirrors s) (identity : String) : (r.remove identity).Mirrors s where
  sound := h.sound.remove identity
  shown := by
    intro other e he
    rw [resolve_remove] at he
    split at he
    · cases he
    · exact h.shown he

/-- Everything that it reports is in the store. -/
theorem Mirrors.restored_of_mem (h : r.Mirrors s) {a : String × Instant} (ha : a ∈ r.activations) : s.restored a.1 = some a.2 := by
  obtain ⟨e, hmem, hlast⟩ := mem_activations.mp ha
  rw [← h.shown (h.sound.resolve_eq_some_iff.mpr hmem)]
  exact hlast

end Registry

namespace App

/-- The hub to which the targets of some settings are registered. -/
def emptyHub (settings : Settings) : Hub where
  bus := .ofCapacity settings.eventCapacity
  pool := .ofWorkers settings.maxWorkers
  enforceFeatures := settings.dispatch.enforceFeatures

/-- The application of some settings with some targets, and what is released when they are registered. -/
def assembled (settings : Settings) (vault : Vault) (targets : List (String × Target)) : App × List Teardown :=
  let (hub, teardowns) := targets.foldl (registerFrom vault.store) (emptyHub settings, [])
  ({
    hub
    persister := ⟨vault, 0⟩
    persists := settings.state.flushIntervalSeconds != 0
    supervisor := tasks settings.state.flushIntervalSeconds
    defaultTimeout := settings.dispatch.defaultTimeoutSeconds.map .ofSeconds }, teardowns)

variable {settings : Settings} {backend : Backend} {extras : List (String × Target)} {files : Files} {app : App}
  {teardowns : List Teardown} {vault : Vault}

/-- Where the store is loaded and the numbers are within their limits, building is a matter of the targets that are configured. -/
theorem build_eq (hl : Vault.load files backend = .ok vault) (hc : settings.eventCapacity ≤ Bus.maxCapacity)
    (hw : settings.maxWorkers ≤ Pool.limit) : build settings backend extras files =
      match settings.targets.mapM configured with
      | .error failure => .error (.failed failure)
      | .ok targets => .ok (assembled settings vault (targets ++ extras)) := by
  unfold build
  rw [if_neg (Nat.not_lt.mpr hc), hl]
  dsimp only
  cases settings.targets.mapM configured with
  | error failure => rfl
  | ok targets => exact if_neg (Nat.not_lt.mpr hw)

/-- What is built was loaded and registered. -/
theorem exists_of_build (hb : build settings backend extras files = .ok (app, teardowns)) :
    ∃ vault targets, Vault.load files backend = .ok vault ∧ settings.targets.mapM configured = .ok targets ∧
      (app, teardowns) = assembled settings vault (targets ++ extras) := by
  unfold build at hb
  split at hb
  · cases hb
  · split at hb
    · cases hb
    · next vault hl =>
      split at hb
      · cases hb
      · next targets ht =>
        split at hb
        · cases hb
        · exact ⟨vault, targets, hl, ht, (Except.ok.inj hb).symm⟩

/-- Registering targets, the hub shows what the store has for them. -/
theorem mirrors_foldl_registerFrom {s : Store} (targets : List (String × Target)) {state : Hub × List Teardown}
    (h : state.1.registry.Mirrors s) : (targets.foldl (registerFrom s) state).1.registry.Mirrors s := by
  induction targets generalizing state with
  | nil => exact h
  | cons target rest ih => exact ih (h.register target.1 target.2)

/-- An application that is built shows, of every registered target, what it loaded. -/
theorem mirrors_build (hb : build settings backend extras files = .ok (app, teardowns)) (hl : Vault.load files backend = .ok vault) :
    app.hub.registry.Mirrors vault.store := by
  obtain ⟨loaded, targets, hl', -, hassembled⟩ := exists_of_build hb
  obtain rfl := Except.ok.inj (hl.symm.trans hl')
  obtain rfl := (Prod.mk.inj hassembled).1
  exact mirrors_foldl_registerFrom (targets ++ extras) (Registry.mirrors_of_empty rfl vault.store)

end App

end Herald
