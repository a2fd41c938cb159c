import Herald.Event.Bus
import Herald.Proofs.RegistrySound
import Herald.State.Store

/-!
# What goes on around the persister

Targets are registered, replaced and removed, and dispatches stamp them, while the persister runs. A registration first looks up what was
saved for its target, then holds the registry while it finds its place, restores, and puts itself there; no other registration or removal
comes in between, but dispatches do. A dispatch holds on to a registration from when it resolved it, stamps its place, and publishes the
stamp at any later time. Every step is one of these, and any number of them may be on their way at once.

The stamps that were given are noted, and whose place each place is. From these two it follows that every activation that is found
anywhere was either loaded or given to the identity it is found for (`Traffic.Sound`), and that no step takes back anything
(`Traffic.Grown`).
-/

namespace Herald

/-- A stamp that a dispatch got: for whom, at which place, and of when. -/
structure Stamped where
  identity : String
  place : Nat
  time : Instant

/-- A registration on its way, with what was saved for it. -/
structure Arrival where
  identity : String
  target : Target
  restored : Option Instant

/-- The registry and the bus, with all that is on its way. -/
structure Traffic where
  registry : Registry := {}
  bus : Bus
  /-- The registrations that wait for the registry. -/
  arriving : List Arrival := []
  /-- The registration that holds the registry, with its place. -/
  entering : Option (Arrival × Nat) := none
  /-- What dispatches have resolved and not stamped yet. -/
  held : List Registration := []
  /-- What dispatches have stamped and not published yet. -/
  unpublished : List (String × Instant) := []
  /-- Whether the persister was told to stop. -/
  signalled : Bool := false
  /-- Whether nobody is left who may publish. -/
  closed : Bool := false
  /-- The identity that each place was made for. -/
  owners : List String := []
  /-- All stamps that were given. -/
  given : List Stamped := []

/-- Whether an activation was loaded or given. -/
def Accounted (loaded : Store) (given : List Stamped) (identity : String) (t : Instant) : Prop :=
  loaded.restored identity = some t ∨ ∃ g ∈ given, g.identity = identity ∧ g.time = t

/-- What was loaded or given stays so. -/
theorem Accounted.mono {loaded : Store} {given given' : List Stamped} (hsub : given ⊆ given') {identity : String} {t : Instant}
    (h : Accounted loaded given identity t) : Accounted loaded given' identity t := by
  rcases h with h | ⟨g, hg, hi, ht⟩
  · exact .inl h
  · exact .inr ⟨g, hsub hg, hi, ht⟩

/-- The later of two activations that are accounted for is accounted for. -/
theorem Accounted.raised {loaded : Store} {given : List Stamped} {identity : String} {last : Option Instant} {now : Instant}
    (hlast : ∀ t, last = some t → Accounted loaded given identity t) (hnow : Accounted loaded given identity now) :
    Accounted loaded given identity (Instant.raised last now) := by
  cases last with
  | none => exact hnow
  | some t =>
    simp only [Instant.raised, Instant.later]
    split
    · exact hlast t rfl
    · exact hnow

namespace Traffic

/-- Whose places there are once a place is found for an identity. -/
def ownersWith (w : Traffic) (identity : String) : List String :=
  if w.registry.contains identity then w.owners else w.owners ++ [identity]

/-- The stamps that were given to targets which are registered. -/
def live (w : Traffic) : List Stamped :=
  w.given.filter fun g => w.registry.registered.any fun p => p.2.place == g.place

/-- One step, while the persister has a store. -/
inductive Step (s : Store) : Traffic → Traffic → Prop
  /-- A registration looks up what was saved, if the registry restores. -/
  | arrive {w : Traffic} (identity : String) (target : Target) {restored : Option Instant}
      (hr : restored = none ∨ restored = s.restored identity) :
      Step s w { w with arriving := ⟨identity, target, restored⟩ :: w.arriving }
  /-- It takes hold of the registry and finds its place. -/
  | enter {w : Traffic} {a : Arrival} (before behind : List Arrival) (hf : w.entering = none)
      (ha : w.arriving = before ++ a :: behind) :
      Step s w { w with
        registry := (w.registry.allocate a.identity).2
        arriving := before ++ behind
        entering := some (a, (w.registry.allocate a.identity).1)
        owners := w.ownersWith a.identity }
  /-- It restores what was saved. -/
  | restore {w : Traffic} {a : Arrival} {place : Nat} {t : Instant} (he : w.entering = some (a, place)) (ht : a.restored = some t) :
      Step s w { w with registry := (w.registry.stamp place t).2, entering := some ({ a with restored := none }, place) }
  /-- It puts itself there and lets go of the registry. -/
  | install {w : Traffic} {a : Arrival} {place : Nat} (he : w.entering = some (a, place)) (hr : a.restored = none) :
      Step s w { w with registry := w.registry.put a.identity place a.target, entering := none }
  /-- A target is removed. -/
  | remove {w : Traffic} (identity : String) (hf : w.entering = none) :
      Step s w { w with registry := w.registry.remove identity }
  /-- All targets are removed. -/
  | removeAll {w : Traffic} (hf : w.entering = none) : Step s w { w with registry := w.registry.removeAll }
  /-- A dispatch resolves its target. -/
  | hold {w : Traffic} (identity : String) {e : Registration} (he : w.registry.resolve identity = some e) :
      Step s w { w with held := e :: w.held }
  /-- It stamps it. -/
  | stamp {w : Traffic} {e : Registration} (before behind : List Registration) (he : w.held = before ++ e :: behind) (now : Instant) :
      Step s w { w with
        registry := (w.registry.stamp e.place now).2
        held := before ++ behind
        unpublished := (e.identity, (w.registry.stamp e.place now).1) :: w.unpublished
        given := ⟨e.identity, e.place, (w.registry.stamp e.place now).1⟩ :: w.given }
  /-- It publishes the stamp. -/
  | publish {w : Traffic} {identity : String} {t : Instant} (before behind : List (String × Instant))
      (hu : w.unpublished = before ++ (identity, t) :: behind) (ho : w.closed = false) :
      Step s w { w with bus := w.bus.publish (.activated identity t), unpublished := before ++ behind }
  /-- Something else is published. -/
  | announce {w : Traffic} {e : Event} (he : e.activation? = none) (ho : w.closed = false) :
      Step s w { w with bus := w.bus.publish e }
  /-- The persister is told to stop. -/
  | signal {w : Traffic} : Step s w { w with signalled := true }
  /-- The last one who may publish goes away. -/
  | close {w : Traffic} : Step s w { w with closed := true }

/-! ## Nothing is taken back -/

/-- Whether a state may come after another: places stay whose they are, activations only rise, and what was given or published stays so. -/
structure Grown (w w' : Traffic) : Prop where
  owners : ∀ {place : Nat} {identity : String}, w.owners[place]? = some identity → w'.owners[place]? = some identity
  rises : ∀ {place : Nat} {t : Instant}, w.registry.lastNotified place = some t →
    ∃ t', w'.registry.lastNotified place = some t' ∧ t ≤ t'
  given : w.given ⊆ w'.given
  published : w.bus.size ≤ w'.bus.size

/-- A stamp lowers no place. -/
theorem rises_stamp (r : Registry) (stampedPlace : Nat) (now : Instant) {place : Nat} {t : Instant}
    (ht : r.lastNotified place = some t) : ∃ t', (r.stamp stampedPlace now).2.lastNotified place = some t' ∧ t ≤ t' := by
  by_cases hp : stampedPlace < r.stamps.length
  · rw [Registry.lastNotified_stamp r hp]
    by_cases hs : place = stampedPlace
    · subst hs
      rw [if_pos rfl, ht]
      exact ⟨_, rfl, Instant.le_later_left t now⟩
    · rw [if_neg hs]
      exact ⟨t, ht, Std.le_refl t⟩
  · refine ⟨t, ?_, Std.le_refl t⟩
    have hsame : r.stamps.set stampedPlace (some (r.stamp stampedPlace now).1) = r.stamps :=
      List.set_eq_of_length_le (Nat.not_lt.mp hp)
    have hstamps : (r.stamp stampedPlace now).2.stamps = r.stamps := hsame
    rw [Registry.lastNotified, hstamps]
    exact ht

/-- Places stay whose they are when a place is found. -/
theorem owners_ownersWith (w : Traffic) (found : String) {place : Nat} {identity : String}
    (h : w.owners[place]? = some identity) : (w.ownersWith found)[place]? = some identity := by
  unfold ownersWith
  split
  · exact h
  · have hp : place < w.owners.length := (List.getElem?_eq_some_iff.mp h).1
    rw [List.getElem?_append_left hp]
    exact h

/-- What is published adds to the bus. -/
theorem size_le_publish (b : Bus) (e : Event) : b.size ≤ (b.publish e).size := by
  simp only [Bus.size, Bus.publish, List.length_append, Nat.le_add_right]

/-- A state comes after itself. -/
theorem Grown.refl (w : Traffic) : w.Grown w where
  owners h := h
  rises h := ⟨_, h, Std.le_refl _⟩
  given := List.Subset.refl _
  published := Nat.le_refl _

/-- No step takes back anything. -/
theorem Step.grown {s : Store} {w w' : Traffic} (hstep : Step s w w') : w.Grown w' := by
  cases hstep with
  | enter before behind hf ha =>
    refine { Grown.refl w with owners := fun h => owners_ownersWith w _ h, rises := fun {place} {t} ht => ⟨t, ?_, Std.le_refl t⟩ }
    rw [Registry.lastNotified_allocate]
    exact ht
  | restore he ht => exact { Grown.refl w with rises := fun ht => rises_stamp _ _ _ ht }
  | stamp before behind he now =>
    exact { Grown.refl w with rises := fun ht => rises_stamp _ _ _ ht, given := List.subset_cons_self _ _ }
  | publish before behind hu ho => exact { Grown.refl w with published := size_le_publish w.bus _ }
  | announce he ho => exact { Grown.refl w with published := size_le_publish w.bus _ }
  | arrive | install | remove | removeAll | hold | signal | close => exact { Grown.refl w with }

/-! ## Everything is accounted for -/

/-- What all steps keep, from what was loaded on: a registration is where its identity has its place, and every activation that is found
anywhere is accounted for. -/
structure Sound (loaded : Store) (w : Traffic) : Prop where
  allocated : w.owners.length = w.registry.stamps.length
  registered : ∀ {p : String × Registration}, p ∈ w.registry.registered →
    p.2.identity = p.1 ∧ w.owners[p.2.place]? = some p.1
  held : ∀ {e : Registration}, e ∈ w.held → w.owners[e.place]? = some e.identity
  arriving : ∀ {a : Arrival} {t : Instant}, a ∈ w.arriving → a.restored = some t → Accounted loaded w.given a.identity t
  entering : ∀ {a : Arrival} {place : Nat}, w.entering = some (a, place) →
    w.owners[place]? = some a.identity ∧ ∀ {t : Instant}, a.restored = some t → Accounted loaded w.given a.identity t
  stamps : ∀ {place : Nat} {identity : String} {t : Instant}, w.owners[place]? = some identity →
    w.registry.lastNotified place = some t → Accounted loaded w.given identity t
  unpublished : ∀ {identity : String} {t : Instant}, (identity, t) ∈ w.unpublished → Accounted loaded w.given identity t
  published : ∀ {identity : String} {t : Instant}, .activated identity t ∈ w.bus.published → Accounted loaded w.given identity t
  given : ∀ {g : Stamped}, g ∈ w.given →
    w.owners[g.place]? = some g.identity ∧ ∃ t, w.registry.lastNotified g.place = some t ∧ g.time ≤ t

/-- Before the first step nothing has happened. -/
theorem sound_of_bus {b : Bus} (hb : b.published = []) (loaded : Store) : Sound loaded { bus := b } where
  allocated := rfl
  registered h := absurd h List.not_mem_nil
  held h := absurd h List.not_mem_nil
  arriving h := absurd h List.not_mem_nil
  entering h := absurd h nofun
  stamps h := absurd h nofun
  unpublished h := absurd h List.not_mem_nil
  published h := absurd (hb ▸ h) List.not_mem_nil
  given h := absurd h List.not_mem_nil

/-- What stands around an element of a list stands in the list. -/
theorem mem_of_mem_around {α : Type} {x y : α} {before behind all : List α} (hall : all = before ++ y :: behind)
    (hx : x ∈ before ++ behind) : x ∈ all := by
  rw [hall]
  rcases List.mem_append.mp hx with hx | hx
  · exact List.mem_append_left _ hx
  · exact List.mem_append_right _ (List.mem_cons_of_mem _ hx)

section Sound

variable {loaded s : Store} {w w' : Traffic} (h : w.Sound loaded)
include h

/-- A place that is somebody's was allocated. -/
theorem Sound.place_lt {place : Nat} {identity : String} (ho : w.owners[place]? = some identity) :
    place < w.registry.stamps.length := by
  rw [← h.allocated]
  exact (List.getElem?_eq_some_iff.mp ho).1

/-- The place that is found for an identity is that identity's. -/
theorem Sound.owner_allocate (identity : String) :
    (w.ownersWith identity)[(w.registry.allocate identity).1]? = some identity ∧
      (w.ownersWith identity).length = (w.registry.allocate identity).2.stamps.length := by
  unfold ownersWith Registry.contains
  cases he : w.registry.resolve identity with
  | some e =>
    simp only [Registry.allocate_of_resolve he, Option.isSome_some, if_true]
    exact ⟨(h.registered (Keyed.mem_of_get? he)).2, h.allocated⟩
  | none =>
    simp only [Registry.allocate_of_resolve_none he, Option.isSome_none, Bool.false_eq_true, if_false]
    constructor
    · rw [← h.allocated]
      exact List.getElem?_concat_length
    · simp only [List.length_append, h.allocated, List.length_singleton]

/-- A registration that looks up what was saved finds what is accounted for. -/
theorem Sound.arrive (hs : ∀ {i : String} {t : Instant}, s.restored i = some t → Accounted loaded w.given i t) (identity : String)
    (target : Target) {restored : Option Instant} (hr : restored = none ∨ restored = s.restored identity) :
    Sound loaded { w with arriving := ⟨identity, target, restored⟩ :: w.arriving } := by
  refine { h with arriving := fun {a} {t} ha ht => ?_ }
  rcases List.mem_cons.mp ha with rfl | ha
  · rcases hr with hr | hr
    · exact absurd (hr.symm.trans ht) nofun
    · exact hs (hr.symm.trans ht)
  · exact h.arriving ha ht

/-- Finding a place keeps everything accounted for: a new place has no activation. -/
theorem Sound.enter {a : Arrival} {before behind : List Arrival} (ha : w.arriving = before ++ a :: behind) :
    Sound loaded { w with
      registry := (w.registry.allocate a.identity).2
      arriving := before ++ behind
      entering := some (a, (w.registry.allocate a.identity).1)
      owners := w.ownersWith a.identity } where
  allocated := (h.owner_allocate a.identity).2
  registered hp := by
    have hp' := (Registry.registered_allocate w.registry a.identity) ▸ hp
    exact ⟨(h.registered hp').1, owners_ownersWith w _ (h.registered hp').2⟩
  held he := owners_ownersWith w _ (h.held he)
  arriving hb ht := h.arriving (mem_of_mem_around ha hb) ht
  entering he := by
    obtain ⟨rfl, rfl⟩ := Prod.mk.inj (Option.some.inj he)
    have hmem : a ∈ w.arriving := ha ▸ List.mem_append_right _ List.mem_cons_self
    exact ⟨(h.owner_allocate a.identity).1, h.arriving hmem⟩
  stamps {place identity t} ho ht := by
    have ht' : w.registry.lastNotified place = some t := (Registry.lastNotified_allocate w.registry a.identity place) ▸ ht
    -- the place has an activation, so it is not the new one
    have hp : place < w.owners.length := by
      rw [h.allocated]
      refine Nat.lt_of_not_le fun hge => ?_
      rw [Registry.lastNotified, List.getElem?_eq_none hge] at ht'
      exact absurd ht'.symm (Option.some_ne_none t)
    refine h.stamps ?_ ht'
    have ho' : (w.ownersWith a.identity)[place]? = some identity := ho
    have hold := owners_ownersWith w a.identity (List.getElem?_eq_getElem hp)
    rw [List.getElem?_eq_getElem hp]
    exact hold.symm.trans ho'
  unpublished hu := h.unpublished hu
  published hp := h.published hp
  given {g} hg := by
    obtain ⟨ho, t, ht, hle⟩ := h.given hg
    refine ⟨owners_ownersWith w _ ho, t, ?_, hle⟩
    change (w.registry.allocate a.identity).2.lastNotified g.place = some t
    rw [Registry.lastNotified_allocate]
    exact ht

/-- What is found at a place after a stamp of something that is accounted for is accounted for. -/
theorem Sound.accounted_stamp {given : List Stamped} (hgiven : w.given ⊆ given) {place : Nat} {identity : String}
    (howner : w.owners[place]? = some identity) {now : Instant}
    (hnow : Accounted loaded given identity (w.registry.stamp place now).1) {other : Nat} {owner : String} {t : Instant}
    (ho : w.owners[other]? = some owner) (ht : (w.registry.stamp place now).2.lastNotified other = some t) :
    Accounted loaded given owner t := by
  rw [Registry.lastNotified_stamp _ (h.place_lt howner)] at ht
  by_cases hp : other = place
  · subst hp
    rw [if_pos rfl, Instant.latest_some, ← Registry.stamp_fst] at ht
    obtain rfl := Option.some.inj ht
    obtain rfl := Option.some.inj (howner.symm.trans ho)
    exact hnow
  · rw [if_neg hp] at ht
    exact (h.stamps ho ht).mono hgiven

/-- No stamp lowers the place of a stamp that was given. -/
theorem Sound.given_stamp {g : Stamped} (hg : g ∈ w.given) (place : Nat) (now : Instant) :
    w.owners[g.place]? = some g.identity ∧ ∃ t, (w.registry.stamp place now).2.lastNotified g.place = some t ∧ g.time ≤ t := by
  obtain ⟨ho, last, hlast, hle⟩ := h.given hg
  obtain ⟨last', hlast', hle'⟩ := rises_stamp w.registry place now hlast
  exact ⟨ho, last', hlast', Std.le_trans hle hle'⟩

/-- Restoring keeps everything accounted for: the place is raised to what was looked up, which is accounted for. -/
theorem Sound.restore {a : Arrival} {place : Nat} {t : Instant} (he : w.entering = some (a, place)) (ht : a.restored = some t) :
    Sound loaded { w with registry := (w.registry.stamp place t).2, entering := some ({ a with restored := none }, place) } := by
  obtain ⟨howner, hrestored⟩ := h.entering he
  have hraised : Accounted loaded w.given a.identity (w.registry.stamp place t).1 := by
    rw [Registry.stamp_fst]
    exact Accounted.raised (fun _ hlast => h.stamps howner hlast) (hrestored ht)
  refine { h with allocated := ?_, entering := ?_, stamps := ?_, given := fun hg => h.given_stamp hg place t }
  · rw [Registry.length_stamps_stamp]
    exact h.allocated
  · intro b other hb
    obtain ⟨rfl, rfl⟩ := Prod.mk.inj (Option.some.inj hb)
    exact ⟨howner, nofun⟩
  · intro other owner t' ho ht'
    exact h.accounted_stamp (List.Subset.refl _) howner hraised ho ht'

/-- What a registration puts into the registry stands at its identity's place. -/
theorem Sound.install {a : Arrival} {place : Nat} (he : w.entering = some (a, place)) :
    Sound loaded { w with registry := w.registry.put a.identity place a.target, entering := none } := by
  refine { h with registered := fun {p} hp => ?_, entering := nofun }
  rcases Keyed.mem_of_mem_insert hp with rfl | hp
  · exact ⟨rfl, (h.entering he).1⟩
  · exact h.registered hp

/-- A stamp is noted as given, so the place it raises stays accounted for. -/
theorem Sound.stamp {e : Registration} {before behind : List Registration} (he : w.held = before ++ e :: behind) (now : Instant) :
    Sound loaded { w with
      registry := (w.registry.stamp e.place now).2
      held := before ++ behind
      unpublished := (e.identity, (w.registry.stamp e.place now).1) :: w.unpublished
      given := ⟨e.identity, e.place, (w.registry.stamp e.place now).1⟩ :: w.given } := by
  have hmem : e ∈ w.held := he ▸ List.mem_append_right _ List.mem_cons_self
  have howner : w.owners[e.place]? = some e.identity := h.held hmem
  have hsub := List.subset_cons_self (⟨e.identity, e.place, (w.registry.stamp e.place now).1⟩ : Stamped) w.given
  have hgiven : Accounted loaded (⟨e.identity, e.place, (w.registry.stamp e.place now).1⟩ :: w.given) e.identity
      (w.registry.stamp e.place now).1 := .inr ⟨_, List.mem_cons_self, rfl, rfl⟩
  constructor
  case allocated =>
    rw [Registry.length_stamps_stamp]
    exact h.allocated
  case registered => exact h.registered
  case held => exact fun hf => h.held (mem_of_mem_around he hf)
  case arriving => exact fun ha ht => (h.arriving ha ht).mono hsub
  case entering => exact fun ha => ⟨(h.entering ha).1, fun ht => ((h.entering ha).2 ht).mono hsub⟩
  case stamps => exact fun ho ht => h.accounted_stamp hsub howner hgiven ho ht
  case unpublished =>
    intro identity t hu
    rcases List.mem_cons.mp hu with hu | hu
    · obtain ⟨rfl, rfl⟩ := Prod.mk.inj hu
      exact hgiven
    · exact (h.unpublished hu).mono hsub
  case published => exact fun hp => (h.published hp).mono hsub
  case given =>
    intro g hg
    rcases List.mem_cons.mp hg with rfl | hg
    · refine ⟨howner, _, ?_, Std.le_refl _⟩
      change (w.registry.stamp e.place now).2.lastNotified e.place = some (w.registry.stamp e.place now).1
      rw [Registry.lastNotified_stamp _ (h.place_lt howner), if_pos rfl, Instant.latest_some, Registry.stamp_fst]
    · exact h.given_stamp hg e.place now

/-- What is published was stamped. -/
theorem Sound.publish {identity : String} {t : Instant} {before behind : List (String × Instant)}
    (hu : w.unpublished = before ++ (identity, t) :: behind) :
    Sound loaded { w with bus := w.bus.publish (.activated identity t), unpublished := before ++ behind } := by
  refine { h with unpublished := fun hv => h.unpublished (mem_of_mem_around hu hv), published := fun {j} {u} hp => ?_ }
  rcases List.mem_append.mp hp with hp | hp
  · exact h.published hp
  · obtain ⟨rfl, rfl⟩ := Event.activated.inj (List.mem_singleton.mp hp)
    exact h.unpublished (hu ▸ List.mem_append_right _ List.mem_cons_self)

/-- What else is published tells of no activation. -/
theorem Sound.announce {e : Event} (he : e.activation? = none) : Sound loaded { w with bus := w.bus.publish e } := by
  refine { h with published := fun {identity} {t} hp => ?_ }
  rcases List.mem_append.mp hp with hp | hp
  · exact h.published hp
  · obtain rfl := List.mem_singleton.mp hp
    exact absurd he nofun

/-- Every step keeps everything accounted for, if the store has nothing else. -/
theorem Sound.step (hs : ∀ {i : String} {t : Instant}, s.restored i = some t → Accounted loaded w.given i t)
    (hstep : Step s w w') : w'.Sound loaded := by
  cases hstep with
  | arrive identity target hr => exact h.arrive hs identity target hr
  | enter before behind hf ha => exact h.enter ha
  | restore he ht => exact h.restore he ht
  | install he hr => exact h.install he
  | remove identity hf => exact { h with registered := fun hp => h.registered (Keyed.mem_erase.mp hp).1 }
  | removeAll hf => exact { h with registered := fun hp => absurd hp List.not_mem_nil }
  | hold identity he =>
    refine { h with held := fun {e} hm => ?_ }
    rcases List.mem_cons.mp hm with rfl | hm
    · obtain ⟨hi, ho⟩ := h.registered (Keyed.mem_of_get? he)
      exact ho.trans (congrArg some hi.symm)
    · exact h.held hm
  | stamp before behind he now => exact h.stamp he now
  | publish before behind hu ho => exact h.publish hu
  | announce he ho => exact h.announce he
  | signal => exact { h with }
  | close => exact { h with }

/-- The registry reports at least every stamp that was given to a target which is registered. -/
theorem Sound.live_le_activations {g : Stamped} (hg : g ∈ w.live) : ∃ t, (g.identity, t) ∈ w.registry.activations ∧ g.time ≤ t := by
  obtain ⟨hgiven, hlive⟩ := List.mem_filter.mp hg
  obtain ⟨p, hp, hplace⟩ := List.any_eq_true.mp hlive
  have hplace : p.2.place = g.place := eq_of_beq hplace
  obtain ⟨ho, t, ht, hle⟩ := h.given hgiven
  have hi : p.1 = g.identity := by
    have hp' := (h.registered hp).2
    rw [hplace, ho] at hp'
    exact (Option.some.inj hp').symm
  exact ⟨t, Registry.mem_activations.mpr ⟨p.2, hi ▸ hp, hplace ▸ ht⟩, hle⟩

end Sound

end Traffic

end Herald
