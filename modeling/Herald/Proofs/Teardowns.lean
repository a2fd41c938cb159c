import Herald.Proofs.Roster
import Mathlib.Data.List.Nodup

/-!
# Every registration is released once

A change of what is registered is a row of deeds, and a target is released at one point of the row: a target that is replaced before the
new one is installed, one that is removed after it was taken away, and at a clearing all of them after everything was taken away. A scene
stands between two deeds and notes what was released and what the registry was at that moment. The deeds of a change are the change
(`Scene.change_eq`).

Every call that registers makes a registration of its own, with a number. What keeps the account is one permutation
(`Scene.Balanced.once`): the registrations that were released and those that are registered are all that were made, each once. Every call
brings its target with what comes of releasing it, so releases fail in any pattern; that has no influence (`Scene.run_retarget`).
-/

namespace Herald

/-! ## Changes, one deed after the other -/

/-- One thing that a change does. -/
inductive Deed
  /-- The target of a registration is released. -/
  | release (e : Registration)
  /-- A target takes or finds its place, restores what was saved, and becomes the one that is found. -/
  | install (restored : Option Instant) (identity : String) (target : Target)
  | withdraw (identity : String)
  | withdrawAll
  | stamp (identity : String) (now : Instant)
  | tell (e : Event)

/-- A target that was released: in which change, and what the registry was at that moment. -/
structure Release where
  cause : Change
  registry : Registry
  teardown : Teardown

/-- A release at its time: a registration that is replaced is still the one that is found, and one that was taken away, alone or with
all others, is not found any more. -/
def Release.Timely (r : Release) : Prop :=
  match r.cause with
  | .register _ identity _ =>
    r.teardown.registration.identity = identity ∧ r.registry.resolve identity = some r.teardown.registration
  | .unregister identity => r.teardown.registration.identity = identity ∧ r.registry.resolve identity = none
  | .clear => ∀ identity, r.registry.resolve identity = none
  | .stamp _ _ => False

/-- What is reported of a release: what came of releasing this target, and what its identity resolved to at that moment, which is the
registration itself if it is replaced and nothing if it was taken away. -/
structure Release.Reported (r : Release) : Prop where
  result : r.teardown.result = r.teardown.registration.target.teardown
  resolved : r.teardown.resolved = r.registry.resolve r.teardown.registration.identity
  replaced : ∀ restored identity target, r.cause = .register restored identity target →
    r.teardown.resolved = some r.teardown.registration
  taken : (∀ restored identity target, r.cause ≠ .register restored identity target) → r.teardown.resolved = none

/-- A hub between two deeds, with everything that was released so far. -/
structure Scene where
  hub : Hub
  releases : List Release := []

namespace Hub

/-- The deeds of a change, in their order. -/
def deeds (h : Hub) : Change → List Deed
  | .register restored identity target =>
    (h.registry.resolve identity).toList.map .release ++ [.install restored identity target, .tell (.registered identity)]
  | .unregister identity =>
    match h.registry.resolve identity with
    | some e => [.withdraw identity, .release e, .tell (.removed identity)]
    | none => []
  | .clear => .withdrawAll :: h.registry.discovered.flatMap fun e => [.release e, .tell (.removed e.identity)]
  | .stamp identity now => [.stamp identity now]

/-- The teardowns that a change gives. -/
def teardowns (h : Hub) : Change → List Teardown
  | .register restored identity target => (h.register restored identity target).2
  | .unregister identity => (h.unregister identity).2
  | .clear => h.clear.2
  | .stamp _ _ => []

/-- The registrations that a change ends. -/
def ended (h : Hub) : Change → List Registration
  | .register _ identity _ => (h.registry.resolve identity).toList
  | .unregister identity => (h.registry.resolve identity).toList
  | .clear => h.registry.discovered
  | .stamp _ _ => []

/-- The registry while the targets of the ended registrations are released. -/
def meanwhile (h : Hub) : Change → Registry
  | .unregister identity => h.registry.remove identity
  | .clear => h.registry.removeAll
  | _ => h.registry

/-- What a change releases. -/
def releases (h : Hub) (c : Change) : List Release :=
  (h.ended c).map fun e => ⟨c, h.meanwhile c, (h.meanwhile c).tearDown e⟩

end Hub

namespace Scene

/-- Does one thing as a part of a change. -/
def perform (cause : Change) (s : Scene) : Deed → Scene
  | .release e => { s with releases := s.releases ++ [⟨cause, s.hub.registry, s.hub.registry.tearDown e⟩] }
  | .install restored identity target =>
    { s with hub := { s.hub with registry := (s.hub.registry.register restored identity target).1 } }
  | .withdraw identity => { s with hub := { s.hub with registry := s.hub.registry.remove identity } }
  | .withdrawAll => { s with hub := { s.hub with registry := s.hub.registry.removeAll } }
  | .stamp identity now => { s with hub := { s.hub with registry := s.hub.registry.stampIdentity identity now } }
  | .tell e => { s with hub := s.hub.publish e }

/-- Makes a change, one deed after the other. -/
def change (s : Scene) (c : Change) : Scene :=
  (s.hub.deeds c).foldl (perform c) s

/-- Makes some changes of a hub, from a new registry on. -/
def run (h : Hub) (changes : List Change) : Scene :=
  changes.foldl change ⟨{ h with registry := {} }, []⟩

/-- The numbers of the registrations that were released. -/
def released (s : Scene) : List Nat :=
  s.releases.map (·.teardown.registration.serial)

/-- All registrations that were released, and all that are registered. -/
def registrations (s : Scene) : List Registration :=
  s.releases.map (·.teardown.registration) ++ s.hub.registry.registered.map (·.2)

end Scene

namespace Change

/-- The registration that a change makes, if it makes one: its identity and its target. -/
def made? : Change → Option (String × Target)
  | .register _ identity target => some (identity, target)
  | _ => none

end Change

namespace Scene

/-- Releasing some targets and telling of each, one after the other. -/
theorem foldl_perform_clear (c : Change) (es : List Registration) (s : Scene) :
    (es.flatMap fun e => [Deed.release e, .tell (.removed e.identity)]).foldl (perform c) s =
      ⟨{ s.hub with bus := s.hub.bus.publishAll (es.map fun e => .removed e.identity) },
        s.releases ++ es.map fun e => ⟨c, s.hub.registry, s.hub.registry.tearDown e⟩⟩ := by
  induction es generalizing s with
  | nil => simp [Bus.publishAll]
  | cons e rest ih =>
    rw [List.flatMap_cons, List.foldl_append, ih]
    simp [perform, Hub.publish, Bus.publish, Bus.publishAll]

/-- The deeds of a change are the change, and release what it ends. -/
theorem change_eq (s : Scene) (c : Change) : s.change c = ⟨s.hub.change c, s.releases ++ s.hub.releases c⟩ := by
  cases c with
  | register restored identity target =>
    cases he : s.hub.registry.resolve identity with
    | none => simp [change, Hub.deeds, he, perform, Hub.change, Hub.register, Hub.releases, Hub.ended]
    | some e =>
      simp [change, Hub.deeds, he, perform, Hub.change, Hub.register, Hub.releases, Hub.ended, Hub.meanwhile]
  | unregister identity =>
    cases he : s.hub.registry.resolve identity with
    | none => simp [change, Hub.deeds, he, Hub.change, Hub.unregister, Registry.unregister, Hub.releases, Hub.ended]
    | some e =>
      simp [change, Hub.deeds, he, perform, Hub.change, Hub.unregister, Registry.unregister, Hub.releases, Hub.ended, Hub.meanwhile]
  | clear =>
    rw [change, Hub.deeds, List.foldl_cons, foldl_perform_clear]
    simp only [perform, Hub.change, Hub.clear, Registry.clear, Hub.releases, Hub.ended, Hub.meanwhile, List.map_map]
    rfl
  | stamp identity now => simp [change, Hub.deeds, perform, Hub.change, Hub.releases, Hub.ended]

end Scene

/-- What a change releases are the teardowns that it gives. -/
theorem Hub.teardown_releases (h : Hub) (c : Change) : (h.releases c).map (·.teardown) = h.teardowns c := by
  cases c with
  | register restored identity target =>
    simp only [releases, List.map_map]
    rfl
  | unregister identity =>
    simp only [releases, ended, teardowns, unregister, Registry.unregister]
    cases h.registry.resolve identity <;> rfl
  | clear =>
    simp only [releases, List.map_map]
    rfl
  | stamp identity now => rfl

/-- A target that is released at its time is reported as it should be. -/
theorem Release.Timely.reported {r : Release} (ht : r.Timely) (htorn : r.teardown = r.registry.tearDown r.teardown.registration) :
    r.Reported := by
  have hresult : r.teardown.result = r.teardown.registration.target.teardown := congrArg Teardown.result htorn
  have hresolved : r.teardown.resolved = r.registry.resolve r.teardown.registration.identity := congrArg Teardown.resolved htorn
  rw [Timely] at ht
  split at ht
  · next hcause =>
    obtain ⟨hidentity, hfound⟩ := ht
    refine ⟨hresult, hresolved, fun _ _ _ _ => ?_, fun hno => absurd hcause (hno _ _ _)⟩
    rw [hresolved, hidentity, hfound]
  · next hcause =>
    obtain ⟨hidentity, hgone⟩ := ht
    refine ⟨hresult, hresolved, fun _ _ _ h => (nomatch hcause.symm.trans h), fun _ => ?_⟩
    rw [hresolved, hidentity, hgone]
  · next hcause => exact ⟨hresult, hresolved, fun _ _ _ h => (nomatch hcause.symm.trans h), fun _ => hresolved.trans (ht _)⟩
  · exact ht.elim

/-! ## The account of registrations -/

namespace Change

/-- The registration that a change installs in a registry, if it installs one. -/
def entering? (r : Registry) : Change → Option Registration
  | .register _ identity target => some (r.entering identity target)
  | _ => none

end Change

namespace Hub

variable {h : Hub} (hs : h.registry.Sound)
include hs

/-- What a change ends and what is registered after it are what it installs and what was registered before. -/
theorem ended_registered_perm (c : Change) :
    (h.ended c ++ (h.change c).registry.registered.map (·.2)).Perm
      ((c.entering? h.registry).toList ++ h.registry.registered.map (·.2)) := by
  cases c with
  | register restored identity target =>
    have hins := (Keyed.insert_perm hs.rising identity (h.registry.entering identity target)).map (·.2)
    have hreg : (h.change (.register restored identity target)).registry.registered =
        h.registry.registered.insert identity (h.registry.entering identity target) :=
      h.registry.registered_register restored identity target
    rw [hreg]
    cases he : h.registry.resolve identity with
    | none =>
      rw [Keyed.erase_of_get?_none he] at hins
      simpa [ended, he, Change.entering?] using hins
    | some e =>
      have hold := (Keyed.perm_cons_erase hs.rising he).map (·.2)
      simp only [ended, he, Change.entering?, Option.toList_some]
      exact (hins.cons e).trans ((List.Perm.swap _ _ _).trans (hold.symm.cons _))
  | unregister identity =>
    simp only [ended, change, unregister, Registry.unregister]
    cases he : h.registry.resolve identity with
    | none => simp [Change.entering?]
    | some e => simpa [Change.entering?, publish, Registry.remove] using ((Keyed.perm_cons_erase hs.rising he).map (·.2)).symm
  | clear => simpa [ended, change, clear, Registry.clear, Registry.removeAll, Change.entering?] using h.registry.discovered_perm
  | stamp identity now =>
    simp only [ended, change, Registry.stampIdentity, Change.entering?]
    cases h.registry.resolve identity <;> simp

/-- What a change releases is released at its time. -/
theorem timely_releases (c : Change) : ∀ r ∈ h.releases c, r.Timely := by
  intro r hr
  obtain ⟨e, he, rfl⟩ := List.mem_map.mp hr
  cases c with
  | register restored identity target =>
    have hresolve : h.registry.resolve identity = some e := by simpa [ended] using he
    exact ⟨hs.identity_of_resolve hresolve, hresolve⟩
  | unregister identity =>
    have hresolve : h.registry.resolve identity = some e := by simpa [ended] using he
    refine ⟨hs.identity_of_resolve hresolve, ?_⟩
    simp [meanwhile, Registry.resolve_remove]
  | clear => exact fun _ => rfl
  | stamp identity now => exact absurd he List.not_mem_nil

omit hs in
/-- A change counts the registration that it makes. -/
theorem registrations_change (c : Change) :
    (h.change c).registry.registrations = h.registry.registrations + c.made?.toList.length := by
  cases c with
  | register restored identity target => exact h.registry.registrations_register restored identity target
  | unregister identity =>
    simp only [change, unregister, Registry.unregister]
    cases h.registry.resolve identity <;> simp [Change.made?, publish, Registry.remove]
  | clear => simp [change, clear, Registry.clear, Registry.removeAll, Change.made?]
  | stamp identity now =>
    simp only [change, Registry.stampIdentity, Change.made?]
    cases h.registry.resolve identity <;> simp

end Hub

namespace Scene

/-- An account of the registrations that were made, each with its identity and its target, in the order of their numbers. -/
structure Balanced (s : Scene) (made : List (String × Target)) : Prop where
  sound : s.hub.registry.Sound
  counted : s.hub.registry.registrations = made.length
  /-- Each was released or is registered, and not both, and not twice. -/
  once : (s.registrations.map (·.serial)).Perm (List.range made.length)
  /-- Who has the number of a registration that was made has its identity and its target. -/
  recorded : ∀ e ∈ s.registrations, made[e.serial]? = some (e.identity, e.target)
  timely : ∀ r ∈ s.releases, r.Timely
  torn : ∀ r ∈ s.releases, r.teardown = r.registry.tearDown r.teardown.registration

/-- A change adds the registration that it installs to those that there were. -/
theorem registrations_change_perm (s : Scene) (hs : s.hub.registry.Sound) (c : Change) :
    (s.change c).registrations.Perm ((c.entering? s.hub.registry).toList ++ s.registrations) := by
  have hended : (s.hub.releases c).map (·.teardown.registration) = s.hub.ended c := by
    rw [Hub.releases, List.map_map]
    exact List.map_id _
  rw [change_eq, registrations, List.map_append, hended, List.append_assoc]
  have hperm := Hub.ended_registered_perm hs c
  -- what was released before the change stands in front on both sides
  refine (hperm.append_left _).trans ?_
  rw [registrations, ← List.append_assoc, ← List.append_assoc]
  exact List.perm_append_comm.append_right _

/-- A change keeps the account. -/
theorem Balanced.change {s : Scene} {made : List (String × Target)} (h : s.Balanced made) (c : Change) :
    (s.change c).Balanced (made ++ c.made?.toList) := by
  have hperm := s.registrations_change_perm h.sound c
  refine ⟨?_, ?_, ?_, ?_, ?_, ?_⟩
  · rw [change_eq]
    exact Hub.sound_change h.sound c
  · rw [change_eq, List.length_append, ← h.counted]
    exact Hub.registrations_change c
  · refine (hperm.map _).trans ?_
    cases hc : c.made? with
    | none =>
      have hno : c.entering? s.hub.registry = none := by cases c <;> simp_all [Change.made?, Change.entering?]
      simpa [hno] using h.once
    | some m =>
      obtain ⟨e, he, hserial⟩ : ∃ e, c.entering? s.hub.registry = some e ∧ e.serial = made.length := by
        cases c <;> simp_all [Change.made?, Change.entering?, Registry.entering, h.counted]
      rw [he, Option.toList_some, Option.toList_some, List.singleton_append, List.map_cons, hserial, List.length_append,
        List.length_singleton, List.range_succ]
      exact (h.once.cons _).trans (List.perm_append_singleton _ _).symm
  · intro e he
    rcases List.mem_append.mp (hperm.mem_iff.mp he) with he | he
    · cases c with
      | register restored identity target =>
        have heq : e = s.hub.registry.entering identity target := by simpa [Change.entering?] using he
        simp [heq, Registry.entering, h.counted, Change.made?]
      | _ => simp [Change.entering?] at he
    · have hmade := h.recorded e he
      rw [List.getElem?_append_left (List.getElem?_eq_some_iff.mp hmade).1, hmade]
  · intro r hr
    rw [change_eq] at hr
    rcases List.mem_append.mp hr with hr | hr
    · exact h.timely r hr
    · exact Hub.timely_releases h.sound c r hr
  · intro r hr
    rw [change_eq] at hr
    rcases List.mem_append.mp hr with hr | hr
    · exact h.torn r hr
    · obtain ⟨e, -, rfl⟩ := List.mem_map.mp hr
      rfl

/-- The account of a run. -/
theorem Balanced.foldl_change {s : Scene} {made : List (String × Target)} (h : s.Balanced made) (changes : List Change) :
    (changes.foldl Scene.change s).Balanced (made ++ changes.filterMap Change.made?) := by
  induction changes generalizing s made with
  | nil => simpa using h
  | cons c rest ih =>
    have hnext := ih (h.change c)
    rw [List.append_assoc] at hnext
    cases hc : c.made? <;> simpa [hc] using hnext

end Scene

/-! ## Failures of releasing -/

namespace Target

/-- The target without what comes of releasing it. -/
def quiet (t : Target) : Target :=
  match t.channel with
  | .custom handler => { t with channel := .custom { handler with release := none } }
  | _ => t

end Target

section Retarget

variable (f : Target → Target)

namespace Registration

/-- The registration with its target changed. -/
def retarget (e : Registration) : Registration :=
  { e with target := f e.target }

end Registration

namespace Registry

/-- The registry with all targets changed. -/
def retarget (r : Registry) : Registry :=
  { r with registered := r.registered.mapValues (Registration.retarget f) }

end Registry

namespace Change

/-- The change with its target changed, if it has one. -/
def retarget : Change → Change
  | .register restored identity target => .register restored identity (f target)
  | c => c

end Change

namespace Deed

/-- The deed with its target changed, if it has one. -/
def retarget : Deed → Deed
  | .release e => .release (e.retarget f)
  | .install restored identity target => .install restored identity (f target)
  | d => d

end Deed

namespace Hub

/-- The hub with all targets changed that are registered. -/
def retarget (h : Hub) : Hub :=
  { h with registry := h.registry.retarget f }

end Hub

namespace Release

/-- The release with all targets changed. -/
def retarget (r : Release) : Release :=
  ⟨r.cause.retarget f, r.registry.retarget f, (r.registry.retarget f).tearDown (r.teardown.registration.retarget f)⟩

end Release

namespace Scene

/-- The scene with all targets changed that are or were registered. -/
def retarget (s : Scene) : Scene :=
  ⟨s.hub.retarget f, s.releases.map (Release.retarget f)⟩

end Scene

namespace Registry

/-- Looking an identity up does not look at targets. -/
theorem resolve_retarget (r : Registry) (identity : String) :
    (r.retarget f).resolve identity = (r.resolve identity).map (Registration.retarget f) :=
  Keyed.get?_mapValues _ identity r.registered

/-- Stamping does not look at targets. -/
theorem stamp_retarget (r : Registry) (place : Nat) (now : Instant) :
    ((r.retarget f).stamp place now).2 = (r.stamp place now).2.retarget f :=
  rfl

/-- A place is found without looking at targets. -/
theorem allocate_retarget (r : Registry) (identity : String) :
    (r.retarget f).allocate identity = ((r.allocate identity).1, (r.allocate identity).2.retarget f) := by
  rw [allocate, allocate, resolve_retarget]
  cases r.resolve identity <;> rfl

/-- Registering a changed target is registering the target, with all targets changed. -/
theorem register_retarget (r : Registry) (restored : Option Instant) (identity : String) (target : Target) :
    ((r.retarget f).register restored identity (f target)).1 = (r.register restored identity target).1.retarget f := by
  have hput (r : Registry) (place : Nat) : (r.retarget f).put identity place (f target) = (r.put identity place target).retarget f := by
    simp only [put, retarget, Keyed.mapValues_insert, Registration.retarget]
  unfold register
  cases restored <;> simp only [allocate_retarget, stamp_retarget, hput]

/-- Removing does not look at targets. -/
theorem remove_retarget (r : Registry) (identity : String) : (r.retarget f).remove identity = (r.remove identity).retarget f := by
  simp only [remove, retarget, Keyed.mapValues_erase]

/-- The order of discovery does not depend on targets. -/
theorem discovered_retarget (r : Registry) : (r.retarget f).discovered = r.discovered.map (Registration.retarget f) := by
  have hvalues : (r.retarget f).registered.map (·.2) = (r.registered.map (·.2)).map (Registration.retarget f) := by
    simp [retarget, Keyed.mapValues]
  rw [discovered, discovered, hvalues]
  exact (List.map_mergeSort (f := Registration.retarget f) fun _ _ _ _ => rfl).symm

/-- Stamping what an identity resolves to does not look at targets. -/
theorem stampIdentity_retarget (r : Registry) (identity : String) (now : Instant) :
    (r.retarget f).stampIdentity identity now = (r.stampIdentity identity now).retarget f := by
  rw [stampIdentity, stampIdentity, resolve_retarget]
  cases r.resolve identity <;> rfl

end Registry

/-- A change of changed targets consists of the same deeds. -/
theorem Hub.deeds_retarget (h : Hub) (c : Change) : (h.retarget f).deeds (c.retarget f) = (h.deeds c).map (Deed.retarget f) := by
  cases c with
  | register restored identity target =>
    simp only [Change.retarget, deeds, retarget, Registry.resolve_retarget]
    cases h.registry.resolve identity <;> rfl
  | unregister identity =>
    simp only [Change.retarget, deeds, retarget, Registry.resolve_retarget]
    cases h.registry.resolve identity <;> rfl
  | clear =>
    simp only [Change.retarget, deeds, retarget, Registry.discovered_retarget, List.flatMap_map, List.map_cons, List.map_flatMap]
    rfl
  | stamp identity now => rfl

namespace Scene

/-- A deed does the same, whatever the targets are. -/
theorem perform_retarget (cause : Change) (s : Scene) (d : Deed) :
    (s.retarget f).perform (cause.retarget f) (d.retarget f) = (s.perform cause d).retarget f := by
  cases d with
  | release e => simp [perform, retarget, Deed.retarget, Release.retarget, Hub.retarget, Registry.tearDown]
  | install restored identity target =>
    simp only [perform, retarget, Deed.retarget, Hub.retarget, Registry.register_retarget]
  | withdraw identity => simp only [perform, retarget, Deed.retarget, Hub.retarget, Registry.remove_retarget]
  | withdrawAll => rfl
  | stamp identity now => simp only [perform, retarget, Deed.retarget, Hub.retarget, Registry.stampIdentity_retarget]
  | tell e => rfl

/-- A change of changed targets is the change, with all targets changed. -/
theorem change_retarget (s : Scene) (c : Change) : (s.retarget f).change (c.retarget f) = (s.change c).retarget f := by
  have hfold (ds : List Deed) (s : Scene) :
      (ds.map (Deed.retarget f)).foldl (perform (c.retarget f)) (s.retarget f) = (ds.foldl (perform c) s).retarget f := by
    induction ds generalizing s with
    | nil => rfl
    | cons d rest ih => rw [List.map_cons, List.foldl_cons, perform_retarget, ih, List.foldl_cons]
  rw [change, retarget, Hub.deeds_retarget]
  exact hfold (s.hub.deeds c) s

/-- A run with changed targets is the run, with all targets changed. -/
theorem run_retarget (h : Hub) (changes : List Change) : run h (changes.map (Change.retarget f)) = (run h changes).retarget f := by
  have hfold (s : Scene) : (changes.map (Change.retarget f)).foldl change (s.retarget f) = (changes.foldl change s).retarget f := by
    induction changes generalizing s with
    | nil => rfl
    | cons c rest ih => rw [List.map_cons, List.foldl_cons, change_retarget, ih, List.foldl_cons]
  exact hfold ⟨{ h with registry := {} }, []⟩

end Scene

end Retarget

/-! ## Every registration -/

namespace Scene

/-- A new registry has nothing to account for. -/
theorem balanced_new (h : Hub) : Balanced ⟨{ h with registry := {} }, []⟩ [] where
  sound := Registry.sound_of_empty rfl
  counted := rfl
  once := List.Perm.refl _
  recorded _ he := absurd he List.not_mem_nil
  timely _ hr := absurd hr List.not_mem_nil
  torn _ hr := absurd hr List.not_mem_nil

/-- The hub of a run is the one that the changes make. -/
theorem hub_run (h : Hub) (changes : List Change) : (run h changes).hub = changes.foldl Hub.change { h with registry := {} } := by
  have hfold (s : Scene) : (changes.foldl change s).hub = changes.foldl Hub.change s.hub := by
    induction changes generalizing s with
    | nil => rfl
    | cons c rest ih => rw [List.foldl_cons, ih, List.foldl_cons, change_eq]
  exact hfold _

/-- What was released stays released while deeds are done. -/
theorem releases_stay (c : Change) (ds : List Deed) (s : Scene) : s.releases <+: (ds.foldl (perform c) s).releases := by
  induction ds generalizing s with
  | nil => exact List.prefix_refl _
  | cons d rest ih =>
    have hd : s.releases <+: (s.perform c d).releases := by
      cases d with
      | release e => exact List.prefix_append _ _
      | _ => exact List.prefix_refl _
    exact hd.trans (ih _)

/-- The registrations that changes have made, each with its identity and its target, as they are accounted for between two changes and
within one. -/
structure Accounts (s : Scene) (made : List (String × Target)) : Prop where
  /-- As many were released and are registered as were made. -/
  total : s.releases.length + s.hub.registry.size = made.length
  numbered : ∀ e ∈ s.registrations, made[e.serial]? = some (e.identity, e.target)
  /-- One that is registered was not released. -/
  installed : ∀ identity e, s.hub.registry.resolve identity = some e → s.released.count e.serial = 0
  /-- One that is not registered any more was released, and once. -/
  ended : ∀ n, n < made.length → (∀ identity e, s.hub.registry.resolve identity = some e → e.serial ≠ n) → s.released.count n = 1
  /-- In the middle of whatever comes next, nothing has been released twice. -/
  within : ∀ c k, (((s.hub.deeds c).take k).foldl (perform c) s).released.Nodup

/-- What keeps the account, spelled out. -/
theorem Balanced.accounts {s : Scene} {made : List (String × Target)} (h : s.Balanced made) : s.Accounts made := by
  -- the numbers of the released come before those of the registered
  have hserials : s.registrations.map (·.serial) = s.released ++ s.hub.registry.registered.map (·.2.serial) := by
    simp [registrations, released, Function.comp_def]
  have hcount (n : Nat) (hn : n < made.length) :
      s.released.count n + (s.hub.registry.registered.map (·.2.serial)).count n = 1 := by
    rw [← List.count_append, ← hserials, h.once.count_eq]
    exact List.count_eq_one_of_mem List.nodup_range (List.mem_range.mpr hn)
  refine ⟨?_, h.recorded, ?_, ?_, ?_⟩
  · have hlength := h.once.length_eq
    simpa [registrations, Registry.size] using hlength
  · intro identity e he
    have hmem : (identity, e) ∈ s.hub.registry.registered := h.sound.resolve_eq_some_iff.mp he
    have hmade := h.recorded e (List.mem_append_right _ (List.mem_map.mpr ⟨_, hmem, rfl⟩))
    have hlive : 0 < (s.hub.registry.registered.map (·.2.serial)).count e.serial :=
      List.count_pos_iff.mpr (List.mem_map.mpr ⟨_, hmem, rfl⟩)
    have hone := hcount e.serial (List.getElem?_eq_some_iff.mp hmade).1
    omega
  · intro n hn hgone
    have hlive : (s.hub.registry.registered.map (·.2.serial)).count n = 0 := by
      rw [List.count_eq_zero]
      intro hmem
      obtain ⟨p, hp, hserial⟩ := List.mem_map.mp hmem
      exact hgone p.1 p.2 (h.sound.resolve_eq_some_iff.mpr hp) hserial
    have hone := hcount n hn
    omega
  · intro c k
    have hnodup : (s.change c).released.Nodup := by
      have hall := (h.change c).once.nodup_iff.mpr List.nodup_range
      rw [registrations, List.map_append, List.map_map] at hall
      exact (List.nodup_append.mp hall).1
    have hstays := releases_stay c ((s.hub.deeds c).drop k) (((s.hub.deeds c).take k).foldl (perform c) s)
    rw [← List.foldl_append, List.take_append_drop] at hstays
    exact hnodup.sublist (hstays.map _).sublist

/-- Two scenes with the same events, the same registrations and the same releases, but for what came of releasing. -/
structure Alike (s s' : Scene) : Prop where
  bus : s'.hub.bus = s.hub.bus
  registry : s'.hub.registry.retarget Target.quiet = s.hub.registry.retarget Target.quiet
  releases : s'.releases.map (Release.retarget Target.quiet) = s.releases.map (Release.retarget Target.quiet)

/-- After any changes of a new registry every registration that was made is registered or was released, once; each was released at its
time and reported with what came of it; and the same changes with other outcomes of releasing tell and do the same. The run is the one
that the changes make of the hub, and what it releases are the teardowns that they give. -/
theorem every_registration_is_released_once (h : Hub) (changes : List Change) :
    (run h changes).hub = changes.foldl Hub.change { h with registry := {} } ∧
      (∀ c, (run h (changes ++ [c])).releases.map (·.teardown) =
        (run h changes).releases.map (·.teardown) ++ (run h changes).hub.teardowns c) ∧
      (run h changes).Accounts (changes.filterMap Change.made?) ∧
      (∀ r ∈ (run h changes).releases, r.Timely ∧ r.Reported) ∧
      ∀ others, others.map (Change.retarget Target.quiet) = changes.map (Change.retarget Target.quiet) →
        (run h changes).Alike (run h others) := by
  have hbalanced : (run h changes).Balanced (changes.filterMap Change.made?) := (balanced_new h).foldl_change changes
  refine ⟨hub_run h changes, ?_, hbalanced.accounts, ?_, ?_⟩
  · intro c
    rw [run, List.foldl_append, ← run, List.foldl_cons, List.foldl_nil, change_eq, List.map_append, Hub.teardown_releases]
  · intro r hr
    have htimely := hbalanced.timely r hr
    exact ⟨htimely, htimely.reported (hbalanced.torn r hr)⟩
  intro others hothers
  have hquiet : (run h others).retarget Target.quiet = (run h changes).retarget Target.quiet := by
    rw [← run_retarget, ← run_retarget, hothers]
  have hhub : (run h others).hub.retarget Target.quiet = (run h changes).hub.retarget Target.quiet := congrArg Scene.hub hquiet
  refine ⟨?_, ?_, ?_⟩
  · exact congrArg (·.bus) hhub
  · exact congrArg (·.registry) hhub
  · exact congrArg Scene.releases hquiet

/-- A target that cannot be released is replaced and the one after it removed: each is released once, and all else is as if nothing had
failed. -/
theorem failing_release_changes_nothing_else :
    let h : Hub := { bus := ⟨1, []⟩, pool := Pool.ofWorkers 1 }
    let brittle : Target := { channel := .custom ⟨"brittle", fun _ => .sent, some (.error ⟨"stuck", []⟩)⟩ }
    let changes (t : Target) : List Change := [.register none "a" t, .register none "a" ⟨{}, none, .log⟩, .unregister "a"]
    (run h (changes brittle)).released = [0, 1] ∧ (run h (changes brittle)).Accounts ((changes brittle).filterMap Change.made?) ∧
      (run h (changes brittle)).Alike (run h (changes brittle.quiet)) := by
  intro h brittle changes
  obtain ⟨_, _, haccounts, _, halike⟩ := every_registration_is_released_once h (changes brittle)
  refine ⟨rfl, haccounts, halike (changes brittle.quiet) rfl⟩

end Scene

end Herald
