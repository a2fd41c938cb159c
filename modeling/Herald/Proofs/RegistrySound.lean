import Herald.Proofs.InstantOrder
import Herald.Proofs.KeyedOrder
import Herald.Registry

/-!
# Sound registries

In a sound registry every registration stands under its own identity and has a place of its own, one that was allocated. The empty
registry is sound, and every operation keeps a registry sound. What an operation does to the registrations and to the last activations
is told by one equation for each of the two: a stamp raises one place and leaves the registrations, registering sets one identity and
raises its place, removing leaves the places as they are.
-/

namespace Herald.Registry

/-- A registry in which registrations are found under their identities and have places of their own. -/
structure Sound (r : Registry) : Prop where
  rising : r.registered.Rising
  named : ∀ p ∈ r.registered, p.2.identity = p.1
  placed : ∀ p ∈ r.registered, p.2.place < r.stamps.length
  distinct : r.registered.Pairwise fun a b => a.2.place ≠ b.2.place

/-- A registry without targets is sound. -/
theorem sound_of_empty {r : Registry} (h : r.registered = []) : r.Sound where
  rising := h ▸ Keyed.rising_nil
  named _ hp := absurd (h ▸ hp) List.not_mem_nil
  placed _ hp := absurd (h ▸ hp) List.not_mem_nil
  distinct := h ▸ List.Pairwise.nil

/-- A registry reports the last activations of the places of its registrations. -/
theorem mem_activations {r : Registry} {identity : String} {t : Instant} :
    (identity, t) ∈ r.activations ↔ ∃ e, (identity, e) ∈ r.registered ∧ r.lastNotified e.place = some t := by
  rw [activations, List.mem_filterMap]
  constructor
  · rintro ⟨⟨i, e⟩, hmem, he⟩
    obtain ⟨last, hlast, hpair⟩ := Option.map_eq_some_iff.mp he
    obtain ⟨rfl, rfl⟩ := Prod.mk.inj hpair
    exact ⟨e, hmem, hlast⟩
  · rintro ⟨e, hmem, hlast⟩
    exact ⟨(identity, e), hmem, congrArg (Option.map fun t => (identity, t)) hlast⟩

section Sound

variable {r : Registry} (h : r.Sound)
include h

/-- What an identity resolves to is listed with it. -/
theorem Sound.resolve_eq_some_iff {identity : String} {e : Registration} :
    r.resolve identity = some e ↔ (identity, e) ∈ r.registered :=
  Keyed.get?_eq_some_iff h.rising

/-- An identity resolves to a registration of that identity. -/
theorem Sound.identity_of_resolve {identity : String} {e : Registration} (he : r.resolve identity = some e) :
    e.identity = identity :=
  h.named _ (h.resolve_eq_some_iff.mp he)

/-- The place of a registration that is found was allocated. -/
theorem Sound.place_lt {identity : String} {e : Registration} (he : r.resolve identity = some e) : e.place < r.stamps.length :=
  h.placed _ (h.resolve_eq_some_iff.mp he)

/-- Registrations of different identities have different places. -/
theorem Sound.place_ne {i j : String} {e f : Registration} (he : r.resolve i = some e) (hf : r.resolve j = some f) (hne : i ≠ j) :
    e.place ≠ f.place := by
  -- a pair stands before or behind another, or is the other
  let R : String × Registration → String × Registration → Prop := fun p q => p.1 ≠ q.1 → p.2.place ≠ q.2.place
  have hall : ∀ ⦃p⦄, p ∈ r.registered → ∀ ⦃q⦄, q ∈ r.registered → R p q := by
    refine List.Pairwise.forall_of_forall_of_flip ?_ ?_ ?_
    · exact fun p _ hp => absurd rfl hp
    · exact h.distinct.imp (S := R) fun hpq _ => hpq
    · exact h.distinct.imp (S := flip R) fun hpq _ => hpq.symm
  exact hall (h.resolve_eq_some_iff.mp he) (h.resolve_eq_some_iff.mp hf) hne

end Sound

/-! ## Stamps -/

/-- A stamp gives the later of the time and the last activation. -/
theorem stamp_fst (r : Registry) (place : Nat) (now : Instant) :
    (r.stamp place now).1 = Instant.raised (r.lastNotified place) now := by
  unfold stamp
  cases r.lastNotified place <;> rfl

/-- A stamp leaves the registrations. -/
@[simp] theorem registered_stamp (r : Registry) (place : Nat) (now : Instant) :
    (r.stamp place now).2.registered = r.registered :=
  rfl

@[simp] theorem registrations_stamp (r : Registry) (place : Nat) (now : Instant) :
    (r.stamp place now).2.registrations = r.registrations :=
  rfl

@[simp] theorem length_stamps_stamp (r : Registry) (place : Nat) (now : Instant) :
    (r.stamp place now).2.stamps.length = r.stamps.length := by
  simp [stamp]

/-- A stamp leaves what identities resolve to. -/
@[simp] theorem resolve_stamp (r : Registry) (place : Nat) (now : Instant) (identity : String) :
    (r.stamp place now).2.resolve identity = r.resolve identity :=
  rfl

/-- A stamp raises its place and no other. -/
theorem lastNotified_stamp (r : Registry) {place : Nat} (hp : place < r.stamps.length) (now : Instant) (other : Nat) :
    (r.stamp place now).2.lastNotified other =
      if other = place then Instant.latest (r.lastNotified place) (some now) else r.lastNotified other := by
  rw [Instant.latest_some, ← stamp_fst]
  simp only [lastNotified, stamp, List.getElem?_set]
  by_cases ho : place = other
  · subst ho
    simp [hp]
  · simp [ho, Ne.symm ho]

/-- A stamp keeps a registry sound. -/
theorem Sound.stamp {r : Registry} (h : r.Sound) (place : Nat) (now : Instant) : (r.stamp place now).2.Sound where
  rising := h.rising
  named := h.named
  placed p hp := by
    rw [length_stamps_stamp]
    exact h.placed p hp
  distinct := h.distinct

/-! ## Registering -/

/-- Allocating a place leaves the registrations. -/
theorem registered_allocate (r : Registry) (identity : String) : (r.allocate identity).2.registered = r.registered := by
  unfold allocate
  split <;> rfl

theorem registrations_allocate (r : Registry) (identity : String) : (r.allocate identity).2.registrations = r.registrations := by
  unfold allocate
  split <;> rfl

/-- A new place has no activation. -/
theorem lastNotified_allocate (r : Registry) (identity : String) (place : Nat) :
    (r.allocate identity).2.lastNotified place = r.lastNotified place := by
  unfold allocate
  split
  · rfl
  · simp only [lastNotified, List.getElem?_append]
    split
    · rfl
    · next hp =>
      rw [List.getElem?_eq_none (Nat.not_lt.mp hp)]
      cases hq : place - r.stamps.length <;> simp

/-- The allocated place of an identity that is registered is the one it has. -/
theorem allocate_of_resolve {r : Registry} {identity : String} {e : Registration} (he : r.resolve identity = some e) :
    r.allocate identity = (e.place, r) := by
  simp only [allocate, he]

/-- The allocated place of an identity that is not registered is a new one. -/
theorem allocate_of_resolve_none {r : Registry} {identity : String} (he : r.resolve identity = none) :
    r.allocate identity = (r.stamps.length, { r with stamps := r.stamps ++ [none] }) := by
  simp only [allocate, he]

/-- Places that were allocated stay so. -/
theorem length_stamps_allocate_le (r : Registry) (identity : String) :
    r.stamps.length ≤ (r.allocate identity).2.stamps.length := by
  unfold allocate
  split
  · exact Nat.le_refl _
  · simp

/-- The place of an identity is allocated afterwards. -/
theorem Sound.allocate_lt {r : Registry} (h : r.Sound) (identity : String) :
    (r.allocate identity).1 < (r.allocate identity).2.stamps.length := by
  cases he : r.resolve identity with
  | some e =>
    rw [allocate_of_resolve he]
    exact h.place_lt he
  | none =>
    rw [allocate_of_resolve_none he]
    simp

/-- The registration that registering a target installs. -/
def entering (r : Registry) (identity : String) (target : Target) : Registration :=
  ⟨identity, (r.allocate identity).1, r.registrations, target⟩

/-- Registering sets one identity. -/
theorem registered_register (r : Registry) (restored : Option Instant) (identity : String) (target : Target) :
    (r.register restored identity target).1.registered = r.registered.insert identity (r.entering identity target) := by
  unfold register entering
  cases restored <;> simp only [put, registered_stamp, registrations_stamp, registered_allocate, registrations_allocate]

/-- Registering counts the registration. -/
theorem registrations_register (r : Registry) (restored : Option Instant) (identity : String) (target : Target) :
    (r.register restored identity target).1.registrations = r.registrations + 1 := by
  unfold register
  cases restored <;> simp only [put, registrations_stamp, registrations_allocate]

theorem length_stamps_register (r : Registry) (restored : Option Instant) (identity : String) (target : Target) :
    (r.register restored identity target).1.stamps.length = (r.allocate identity).2.stamps.length := by
  unfold register
  cases restored <;> simp only [put, length_stamps_stamp]

/-- Registering raises the place of its identity to what is restored. -/
theorem Sound.lastNotified_register {r : Registry} (h : r.Sound) (restored : Option Instant) (identity : String) (target : Target)
    (place : Nat) :
    (r.register restored identity target).1.lastNotified place =
      if place = (r.allocate identity).1 then Instant.latest (r.lastNotified place) restored else r.lastNotified place := by
  cases restored with
  | none =>
    have hl : (r.register none identity target).1.lastNotified place = (r.allocate identity).2.lastNotified place := rfl
    rw [hl, lastNotified_allocate, Instant.latest_none, ite_self]
  | some t =>
    have hl : (r.register (some t) identity target).1.lastNotified place =
        ((r.allocate identity).2.stamp (r.allocate identity).1 t).2.lastNotified place := rfl
    rw [hl, lastNotified_stamp _ (h.allocate_lt identity), lastNotified_allocate, lastNotified_allocate]
    split
    · next hp => rw [hp]
    · rfl

/-- What an identity resolves to when a target has been registered. -/
theorem resolve_register (r : Registry) (restored : Option Instant) (identity : String) (target : Target) (other : String) :
    (r.register restored identity target).1.resolve other =
      if other = identity then some (r.entering identity target) else r.resolve other := by
  unfold resolve
  rw [registered_register]
  split
  · next ho => rw [ho, Keyed.get?_insert_self]
  · next ho => rw [Keyed.get?_insert_of_ne ho]

/-- A registration of another identity than the one a target is registered under has another place. -/
theorem Sound.place_ne_allocate {r : Registry} (h : r.Sound) {identity : String} {p : String × Registration}
    (hp : p ∈ r.registered) (hne : p.1 ≠ identity) : p.2.place ≠ (r.allocate identity).1 := by
  cases he : r.resolve identity with
  | some e =>
    rw [allocate_of_resolve he]
    exact h.place_ne (h.resolve_eq_some_iff.mpr hp) he hne
  | none =>
    rw [allocate_of_resolve_none he]
    exact Nat.ne_of_lt (h.placed p hp)

/-- Registering keeps a registry sound. -/
theorem Sound.register {r : Registry} (h : r.Sound) (restored : Option Instant) (identity : String) (target : Target) :
    (r.register restored identity target).1.Sound where
  rising := by
    rw [registered_register]
    exact h.rising.insert identity _
  named p hp := by
    rw [registered_register] at hp
    rcases Keyed.mem_of_mem_insert hp with rfl | hp
    · rfl
    · exact h.named p hp
  placed p hp := by
    rw [registered_register] at hp
    rw [length_stamps_register]
    rcases Keyed.mem_of_mem_insert hp with rfl | hp
    · exact h.allocate_lt identity
    · exact Nat.lt_of_lt_of_le (h.placed p hp) (length_stamps_allocate_le r identity)
  distinct := by
    rw [registered_register]
    refine (Keyed.insert_perm h.rising identity _).symm.pairwise ?_ fun hab => hab.symm
    refine List.pairwise_cons.mpr ⟨?_, h.distinct.filter _⟩
    intro p hp
    obtain ⟨hp, hne⟩ := Keyed.mem_erase.mp hp
    exact (h.place_ne_allocate hp hne).symm

/-! ## Removing -/

/-- Removing keeps a registry sound. -/
theorem Sound.remove {r : Registry} (h : r.Sound) (identity : String) : (r.remove identity).Sound where
  rising := h.rising.erase identity
  named p hp := h.named p (Keyed.mem_erase.mp hp).1
  placed p hp := h.placed p (Keyed.mem_erase.mp hp).1
  distinct := h.distinct.filter _

/-- What an identity resolves to when one has been removed. -/
theorem resolve_remove (r : Registry) (identity other : String) :
    (r.remove identity).resolve other = if other = identity then none else r.resolve other := by
  unfold resolve remove
  split
  · next ho => rw [ho, Keyed.get?_erase_self]
  · next ho => rw [Keyed.get?_erase_of_ne ho]

end Herald.Registry
