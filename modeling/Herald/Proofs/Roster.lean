import Herald.Hub
import Herald.Proofs.RegistrySound
import Mathlib.Data.List.Basic

/-!
# The registry as an ordered list

A roster is the plain list of what is registered: each identity once, with its target and its last activation, in the order of
discovery. A registry keeps that order in places beside an index of the identities; `Registry.roster` reads the list off it. Every
change of a sound registry is the change of its roster (`roster_change`) and publishes what the roster says
(`published_change`), so over any run of changes all questions to the registry are answered by the list
(`Hub.changes_answer_as_roster`).
-/

namespace Herald

/-- A target under its identity, with its last activation. -/
structure Listed where
  identity : String
  target : Target
  lastNotified : Option Instant

namespace Listed

/-- What can be seen of a target in a roster. -/
def info (e : Listed) : TargetInfo where
  identity := e.identity
  name := e.target.displayName e.identity
  deviceClass := e.target.deviceClass
  features := e.target.features
  lastNotified := e.lastNotified

end Listed

/-- What is registered, in the order of discovery. -/
abbrev Roster := List Listed

/-- A change of what is registered. Registering comes with the activation that was saved for the identity, if there is a store and it
has one at that moment; a stamp goes to whatever the identity resolves to. -/
inductive Change
  | register (restored : Option Instant) (identity : String) (target : Target)
  | unregister (identity : String)
  | clear
  | stamp (identity : String) (now : Instant)

namespace Roster

/-- The roster with the entry of an identity changed. -/
def update (l : Roster) (identity : String) (f : Listed → Listed) : Roster :=
  l.map fun e => if e.identity = identity then f e else e

/-- Whether an identity is in the roster. -/
def has (l : Roster) (identity : String) : Bool :=
  l.any fun e => e.identity == identity

/-- A change of the roster. A target that is registered under an identity in the roster takes the entry over; any other is added at the
end. -/
def apply (l : Roster) : Change → Roster
  | .register restored identity target =>
    if l.has identity then
      l.update identity fun e => { e with target, lastNotified := Instant.latest e.lastNotified restored }
    else l ++ [⟨identity, target, restored⟩]
  | .unregister identity => l.filter fun e => e.identity != identity
  | .clear => []
  | .stamp identity now => l.update identity fun e => { e with lastNotified := Instant.latest e.lastNotified (some now) }

/-- What a change of the roster publishes. -/
def events (l : Roster) : Change → List Event
  | .register _ identity _ => [.registered identity]
  | .unregister identity => if l.has identity then [.removed identity] else []
  | .clear => l.map fun e => .removed e.identity
  | .stamp _ _ => []

/-- What some changes publish, one after the other. -/
def eventsOf : Roster → List Change → List Event
  | _, [] => []
  | l, c :: rest => l.events c ++ eventsOf (l.apply c) rest

end Roster

namespace Registry

/-- A registration as an entry of the roster. -/
def listed (r : Registry) (e : Registration) : Listed :=
  ⟨e.identity, e.target, r.lastNotified e.place⟩

/-- The roster of a registry. -/
def roster (r : Registry) : Roster :=
  r.discovered.map r.listed

/-- Stamps what an identity resolves to. -/
def stampIdentity (r : Registry) (identity : String) (now : Instant) : Registry :=
  match r.resolve identity with
  | some e => (r.stamp e.place now).2
  | none => r

/-- A registry whose questions are answered by a roster. The activations come in an order of their own. -/
structure Answers (r : Registry) (l : Roster) : Prop where
  resolve : ∀ identity, (r.resolve identity).map r.listed = l.find? fun e => e.identity == identity
  contains : ∀ identity, r.contains identity = l.has identity
  size : r.size = l.length
  empty : r.size = 0 ↔ l = []
  snapshot : r.snapshot = l.map Listed.info
  once : (r.snapshot.map (·.identity)).Nodup
  activations : r.activations.Perm (l.filterMap fun e => e.lastNotified.map fun t => (e.identity, t))

end Registry

namespace Hub

/-- A change of what is registered, made on the hub. -/
def change (h : Hub) : Change → Hub
  | .register restored identity target => (h.register restored identity target).1
  | .unregister identity => (h.unregister identity).1
  | .clear => h.clear.1
  | .stamp identity now => { h with registry := h.registry.stampIdentity identity now }

end Hub

/-! ## The order of discovery -/

namespace Registry

/-- The registrations in the order of discovery are those that are registered. -/
theorem discovered_perm (r : Registry) : r.discovered.Perm (r.registered.map (·.2)) :=
  List.mergeSort_perm _ _

section Order

variable {r : Registry} (h : r.Sound)
include h

/-- The places rise in the order of discovery. -/
theorem Sound.discovered_sorted : r.discovered.Pairwise fun a b => a.place < b.place := by
  have hle : r.discovered.Pairwise fun a b => a.place ≤ b.place := by
    refine (List.pairwise_mergeSort ?_ ?_ _).imp fun hab => of_decide_eq_true hab
    · intro a b c hab hbc
      simp only [decide_eq_true_eq] at hab hbc ⊢
      omega
    · intro a b
      simp only [Bool.or_eq_true, decide_eq_true_eq]
      omega
  have hne : r.discovered.Pairwise fun a b => a.place ≠ b.place := by
    refine (discovered_perm r).symm.pairwise ?_ fun hab => hab.symm
    exact List.pairwise_map.mpr h.distinct
  exact (hle.and hne).imp fun hab => Nat.lt_of_le_of_ne hab.1 hab.2

/-- The registrations of a registry in the order of their places are its order of discovery. -/
theorem Sound.discovered_eq {l : List Registration} (hp : l.Perm (r.registered.map (·.2)))
    (hs : l.Pairwise fun a b => a.place < b.place) : r.discovered = l := by
  refine List.Perm.eq_of_pairwise ?_ h.discovered_sorted hs ((discovered_perm r).trans hp.symm)
  intro a b _ _ hab hba
  exact absurd (Nat.lt_trans hab hba) (Nat.lt_irrefl _)

/-- A registration is in the order of discovery if its identity resolves to it. -/
theorem Sound.mem_discovered {e : Registration} : e ∈ r.discovered ↔ r.resolve e.identity = some e := by
  rw [(discovered_perm r).mem_iff, h.resolve_eq_some_iff, List.mem_map]
  constructor
  · rintro ⟨p, hp, rfl⟩
    rw [h.named p hp]
    exact hp
  · intro he
    exact ⟨_, he, rfl⟩

/-- The identities in the order of discovery are different. -/
theorem Sound.identities_nodup : (r.discovered.map (·.identity)).Nodup := by
  refine (((discovered_perm r).map _).nodup_iff).mpr ?_
  rw [List.map_map]
  have hkeys : r.registered.map ((·.identity) ∘ (·.2)) = r.registered.map (·.1) :=
    List.map_congr_left fun p hp => h.named p hp
  rw [hkeys]
  exact List.pairwise_map.mpr (h.rising.imp fun hab => Std.ne_of_lt hab)

/-! ## The roster answers -/

/-- What an identity resolves to is its entry of the roster. -/
theorem Sound.find?_roster (identity : String) :
    r.roster.find? (fun e => e.identity == identity) = (r.resolve identity).map r.listed := by
  have hcomp : (fun e : Listed => e.identity == identity) ∘ r.listed = fun e => e.identity == identity := rfl
  rw [roster, List.find?_map, hcomp]
  congr 1
  cases he : r.resolve identity with
  | none =>
    rw [List.find?_eq_none]
    intro e hm hi
    rw [h.mem_discovered, eq_of_beq hi, he] at hm
    exact absurd hm nofun
  | some e =>
    cases hf : r.discovered.find? fun e => e.identity == identity with
    | none =>
      have hm : e ∈ r.discovered := h.mem_discovered.mpr (by rw [h.identity_of_resolve he, he])
      exact absurd (h.identity_of_resolve he) (by simpa using List.find?_eq_none.mp hf e hm)
    | some f =>
      have hi : f.identity = identity := by simpa using List.find?_some hf
      have hr := h.mem_discovered.mp (List.mem_of_find?_eq_some hf)
      rw [hi, he] at hr
      rw [hr]

/-- The roster has the identities that are registered. -/
theorem Sound.has_roster (identity : String) : r.roster.has identity = (r.resolve identity).isSome := by
  rw [Roster.has, ← List.isSome_find?, h.find?_roster, Option.isSome_map]

/-- All questions to a sound registry are answered by its roster. -/
theorem Sound.answers : r.Answers r.roster where
  resolve identity := (h.find?_roster identity).symm
  contains identity := (h.has_roster identity).symm
  size := by
    rw [roster, List.length_map, (discovered_perm r).length_eq, List.length_map, size]
  empty := by
    rw [← List.length_eq_zero_iff, roster, List.length_map, (discovered_perm r).length_eq, List.length_map, size]
  snapshot := by
    rw [roster, List.map_map]
    rfl
  once := by
    have hids : r.snapshot.map (·.identity) = r.discovered.map (·.identity) := by
      rw [snapshot, List.map_map]
      rfl
    rw [hids]
    exact h.identities_nodup
  activations := by
    rw [roster, List.filterMap_map]
    have hkeys : r.activations =
        (r.registered.map (·.2)).filterMap fun e => (r.lastNotified e.place).map fun t => (e.identity, t) := by
      rw [List.filterMap_map, activations]
      refine List.filterMap_congr fun p hp => ?_
      simp only [Function.comp_apply, h.named p hp]
    rw [hkeys]
    exact (discovered_perm r).symm.filterMap _

/-! ## Changes of the roster -/

omit h in
/-- Changing an entry of the roster of a registry, told by its registrations. -/
theorem update_roster (identity : String) (f : Listed → Listed) :
    r.roster.update identity f =
      r.discovered.map fun e => if e.identity = identity then f (r.listed e) else r.listed e := by
  rw [Roster.update, roster, List.map_map]
  rfl

/-- A stamp raises the entry of what it stamps. -/
theorem Sound.roster_stamp {identity : String} {e : Registration} (he : r.resolve identity = some e) (now : Instant) :
    (r.stamp e.place now).2.roster =
      r.roster.update identity fun l => { l with lastNotified := Instant.latest l.lastNotified (some now) } := by
  have hd : (r.stamp e.place now).2.discovered = r.discovered := rfl
  rw [update_roster, roster, hd]
  refine List.map_congr_left fun f hf => ?_
  have hr := h.mem_discovered.mp hf
  simp only [listed, lastNotified_stamp r (h.place_lt he)]
  by_cases hi : f.identity = identity
  · rw [hi, he] at hr
    have hef : e = f := Option.some.inj hr
    rw [if_pos (congrArg _ hef.symm), if_pos hi, hef]
  · rw [if_neg (h.place_ne hr he hi), if_neg hi]

/-- Registering an identity that is not registered adds it at the end. -/
theorem Sound.roster_register_new {identity : String} (he : r.resolve identity = none) (restored : Option Instant)
    (target : Target) : (r.register restored identity target).1.roster = r.roster ++ [⟨identity, target, restored⟩] := by
  have hs := h.register restored identity target
  have hplace : (r.allocate identity).1 = r.stamps.length := by rw [allocate_of_resolve_none he]
  have hold : ∀ f ∈ r.discovered, f.place < r.stamps.length := fun f hf => h.place_lt (h.mem_discovered.mp hf)
  have hd : (r.register restored identity target).1.discovered = r.discovered ++ [r.entering identity target] := by
    refine hs.discovered_eq ?_ ?_
    · rw [registered_register]
      have hp := (Keyed.insert_perm h.rising identity (r.entering identity target)).map (·.2)
      rw [Keyed.erase_of_get?_none he] at hp
      exact (List.perm_append_singleton _ _).trans (((discovered_perm r).cons _).trans hp.symm)
    · refine List.pairwise_append.mpr ⟨h.discovered_sorted, List.pairwise_singleton _ _, ?_⟩
      intro f hf g hg
      have hg' : g.place = r.stamps.length := by rw [List.mem_singleton.mp hg, entering, hplace]
      rw [hg']
      exact hold f hf
  have hlast : r.lastNotified r.stamps.length = none := by
    simp [lastNotified]
  rw [roster, hd, List.map_append, List.map_singleton, roster]
  congr 1
  · refine List.map_congr_left fun f hf => ?_
    simp only [listed, h.lastNotified_register, hplace, if_neg (Nat.ne_of_lt (hold f hf))]
  · simp only [listed, entering, h.lastNotified_register, if_true, hplace, hlast, Instant.none_latest]

/-- Registering an identity that is registered takes its entry over. -/
theorem Sound.roster_register_known {identity : String} {e : Registration} (he : r.resolve identity = some e)
    (restored : Option Instant) (target : Target) :
    (r.register restored identity target).1.roster =
      r.roster.update identity fun l => { l with target, lastNotified := Instant.latest l.lastNotified restored } := by
  have hs := h.register restored identity target
  have hplace : (r.allocate identity).1 = e.place := by rw [allocate_of_resolve he]
  let replace : Registration → Registration := fun f => if f.identity = identity then r.entering identity target else f
  have hd : (r.register restored identity target).1.discovered = r.discovered.map replace := by
    refine hs.discovered_eq ?_ ?_
    · have hnew := (Keyed.insert_perm h.rising identity (r.entering identity target)).map (·.2)
      have hold := ((discovered_perm r).trans ((Keyed.perm_cons_erase h.rising he).map (·.2))).map replace
      have hfirst : replace e = r.entering identity target := if_pos (h.identity_of_resolve he)
      have hrest : ((Keyed.erase identity r.registered).map (·.2)).map replace = (Keyed.erase identity r.registered).map (·.2) := by
        rw [List.map_map]
        refine List.map_congr_left fun p hp => ?_
        obtain ⟨hp, hne⟩ := Keyed.mem_erase.mp hp
        exact if_neg (h.named p hp ▸ hne)
      rw [List.map_cons, List.map_cons, hfirst, hrest] at hold
      rw [registered_register]
      exact hold.trans hnew.symm
    · refine List.pairwise_map.mpr (h.discovered_sorted.imp_of_mem fun {f g} hf hg hfg => ?_)
      have hkeep : ∀ f ∈ r.discovered, (replace f).place = f.place := by
        intro f hf
        by_cases hi : f.identity = identity
        · have hr := h.mem_discovered.mp hf
          rw [hi, he] at hr
          rw [show replace f = r.entering identity target from if_pos hi, entering, hplace, Option.some.inj hr]
        · rw [show replace f = f from if_neg hi]
      rw [hkeep f hf, hkeep g hg]
      exact hfg
  rw [update_roster, roster, hd, List.map_map]
  refine List.map_congr_left fun f hf => ?_
  have hr := h.mem_discovered.mp hf
  simp only [Function.comp_apply, listed, h.lastNotified_register, hplace]
  by_cases hi : f.identity = identity
  · rw [hi, he] at hr
    have hef : e = f := Option.some.inj hr
    rw [show replace f = r.entering identity target from if_pos hi, if_pos hi, entering, hplace, hef, if_pos rfl, hi]
  · rw [show replace f = f from if_neg hi, if_neg hi, if_neg (h.place_ne hr he hi)]

/-- Removing an identity deletes its entry. -/
theorem Sound.roster_remove (identity : String) :
    (r.remove identity).roster = r.roster.filter fun l => l.identity != identity := by
  have hd : (r.remove identity).discovered = r.discovered.filter fun f => f.identity != identity := by
    refine (h.remove identity).discovered_eq ?_ (h.discovered_sorted.filter _)
    refine ((discovered_perm r).filter _).trans ?_
    rw [List.filter_map]
    refine List.Perm.of_eq (congrArg _ ?_)
    refine List.filter_congr fun p hp => ?_
    simp only [Function.comp_apply, h.named p hp]
  rw [roster, hd, roster, List.filter_map]
  rfl

end Order

/-- The roster of a registry without targets. -/
theorem roster_of_empty {r : Registry} (h : r.registered = []) : r.roster = [] := by
  simp [roster, discovered, h]

/-- A stamp of an identity keeps a registry sound. -/
theorem Sound.stampIdentity {r : Registry} (h : r.Sound) (identity : String) (now : Instant) :
    (r.stampIdentity identity now).Sound := by
  unfold Registry.stampIdentity
  split
  · exact h.stamp _ now
  · exact h

end Registry

namespace Hub

variable {h : Hub} (hs : h.registry.Sound)
include hs

/-- A change keeps the registry sound. -/
theorem sound_change (c : Change) : (h.change c).registry.Sound := by
  cases c with
  | register restored identity target => exact hs.register restored identity target
  | unregister identity =>
    simp only [change, unregister, Registry.unregister]
    cases he : h.registry.resolve identity with
    | none => exact hs
    | some e => exact hs.remove identity
  | clear => exact Registry.sound_of_empty rfl
  | stamp identity now => exact hs.stampIdentity identity now

omit hs in
/-- Removing an identity that is not registered changes nothing. -/
theorem change_unregister_of_resolve_none {identity : String} (he : h.registry.resolve identity = none) :
    h.change (.unregister identity) = h := by
  simp only [change, unregister, Registry.unregister, he, Option.map_none]

/-- A change of the registry is the change of its roster. -/
theorem roster_change (c : Change) : (h.change c).registry.roster = h.registry.roster.apply c := by
  cases c with
  | register restored identity target =>
    have hr : (h.change (.register restored identity target)).registry = (h.registry.register restored identity target).1 := rfl
    rw [hr, Roster.apply, hs.has_roster]
    cases he : h.registry.resolve identity with
    | none => exact hs.roster_register_new he restored target
    | some e => exact hs.roster_register_known he restored target
  | unregister identity =>
    cases he : h.registry.resolve identity with
    | none =>
      rw [change_unregister_of_resolve_none he, Roster.apply, ← hs.roster_remove identity, Registry.remove, Keyed.erase_of_get?_none he]
    | some e =>
      have hr : (h.change (.unregister identity)).registry = h.registry.remove identity := by
        simp only [change, unregister, Registry.unregister, he, Option.map_some, publish]
      rw [hr, hs.roster_remove identity]
      rfl
  | clear => exact Registry.roster_of_empty rfl
  | stamp identity now =>
    have hr : (h.change (.stamp identity now)).registry = h.registry.stampIdentity identity now := rfl
    rw [hr, Registry.stampIdentity]
    cases he : h.registry.resolve identity with
    | none =>
      -- no entry has the identity, so none is changed
      have hno : ∀ l ∈ h.registry.roster, l.identity ≠ identity := by
        have hf := hs.find?_roster identity
        rw [he, Option.map_none, List.find?_eq_none] at hf
        exact fun l hl => by simpa using hf l hl
      rw [Roster.apply, Roster.update]
      exact (List.map_id _).symm.trans (List.map_congr_left fun l hl => (if_neg (hno l hl)).symm)
    | some e => exact hs.roster_stamp he now

/-- A change publishes what the roster says. -/
theorem published_change (c : Change) : (h.change c).bus.published = h.bus.published ++ h.registry.roster.events c := by
  cases c with
  | register restored identity target => rfl
  | unregister identity =>
    rw [Roster.events, hs.has_roster]
    simp only [change, unregister, Registry.unregister]
    cases he : h.registry.resolve identity with
    | none => simp
    | some e => rfl
  | clear =>
    simp only [change, clear, Registry.clear, Bus.publishAll, Roster.events, Registry.roster, List.map_map]
    rfl
  | stamp identity now => simp [change, Roster.events]

omit hs in
/-- A run of changes is the run of its roster. -/
theorem roster_foldl_change (changes : List Change) (h : Hub) (hs : h.registry.Sound) :
    (changes.foldl change h).registry.Sound ∧
      (changes.foldl change h).registry.roster = changes.foldl Roster.apply h.registry.roster ∧
      (changes.foldl change h).bus.published = h.bus.published ++ Roster.eventsOf h.registry.roster changes := by
  induction changes generalizing h with
  | nil => exact ⟨hs, rfl, by simp [Roster.eventsOf]⟩
  | cons c rest ih =>
    obtain ⟨hsound, hroster, hpublished⟩ := ih (h.change c) (sound_change hs c)
    rw [roster_change hs] at hroster hpublished
    refine ⟨hsound, hroster, ?_⟩
    rw [List.foldl_cons, hpublished, published_change hs, Roster.eventsOf, List.append_assoc]

omit hs in
/-- From a new registry on, after any changes, all questions are answered by the list that the same changes make of the empty list,
what was published is what that list says, and removing what is not in the list has no effect at all. -/
theorem changes_answer_as_roster (h : Hub) (changes : List Change) :
    (changes.foldl change { h with registry := {} }).registry.Answers (changes.foldl Roster.apply []) ∧
      (changes.foldl change { h with registry := {} }).bus.published = h.bus.published ++ Roster.eventsOf [] changes ∧
      ∀ identity, (changes.foldl Roster.apply []).has identity = false →
        (changes.foldl change { h with registry := {} }).change (.unregister identity) =
          changes.foldl change { h with registry := {} } := by
  have hnew : ({ h with registry := {} } : Hub).registry.roster = [] := Registry.roster_of_empty rfl
  obtain ⟨hsound, hroster, hpublished⟩ :=
    roster_foldl_change changes { h with registry := {} } (Registry.sound_of_empty rfl)
  rw [hnew] at hroster hpublished
  refine ⟨hroster ▸ hsound.answers, hpublished, fun identity hno => change_unregister_of_resolve_none ?_⟩
  rwa [← hroster, hsound.has_roster, Option.isSome_eq_false_iff, Option.isNone_iff_eq_none] at hno

end Hub

end Herald
