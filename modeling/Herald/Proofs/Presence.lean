import Herald.Proofs.Persisting
import Herald.Proofs.Roster

/-!
# Activations of an identity that stays registered

An identity keeps its place as long as it is registered, whichever registrations replace one another there and whatever else goes on, and
no place loses an activation; so an activation that was shown once is shown until the identity is removed. A registration that comes
later starts with what its call found in the store, and the store never goes back. None of it depends on what was loaded, or on whether
saves succeed.

Between a removal and the next registration there may be a gap: a stamp that the store has not learned of when the registration looks it
up is not shown any more (`Persisting.removal_may_forget`).
-/

namespace Herald

open Relation (ReflTransGen)

/-! ## What a registry shows -/

/-- Whether a registry shows an activation of an identity that is not before some time. -/
def Registry.Reports (r : Registry) (identity : String) (t : Instant) : Prop :=
  ∃ e t', r.resolve identity = some e ∧ r.lastNotified e.place = some t' ∧ t ≤ t'

/-- What is shown of an identity that is looked up is shown in the snapshot. -/
theorem Registry.Reports.snapshot {r : Registry} (hr : r.Sound) {identity : String} {t : Instant} (h : r.Reports identity t)
    {i : TargetInfo} (hi : i ∈ r.snapshot) (hname : i.identity = identity) : ∃ t', i.lastNotified = some t' ∧ t ≤ t' := by
  obtain ⟨e, t', he, ht', hle⟩ := h
  obtain ⟨f, hf, rfl⟩ := List.mem_map.mp hi
  have hresolve : r.resolve f.identity = some f := hr.mem_discovered.mp hf
  have hname : f.identity = identity := hname
  rw [hname, he] at hresolve
  obtain rfl := Option.some.inj hresolve
  exact ⟨t', ht', hle⟩

/-- Whether the last activation at a place is not before some time. -/
def Registry.Reaches (r : Registry) (place : Nat) (t : Instant) : Prop :=
  ∃ u, r.lastNotified place = some u ∧ t ≤ u

/-- A place has a stamp that it got. -/
theorem Registry.reaches_stamp (r : Registry) {place : Nat} (hp : place < r.stamps.length) (now : Instant) :
    (r.stamp place now).2.Reaches place now := by
  rw [Reaches, lastNotified_stamp r hp, if_pos rfl, Instant.latest_some]
  refine ⟨_, rfl, ?_⟩
  cases r.lastNotified place with
  | none => exact Std.le_refl now
  | some last => exact Instant.le_later_left now last

/-- A stamp lowers no place. -/
theorem Registry.Reaches.stamp {r : Registry} {place : Nat} {t : Instant} (h : r.Reaches place t) (stampedPlace : Nat) (now : Instant) :
    (r.stamp stampedPlace now).2.Reaches place t := by
  obtain ⟨u, hu, hle⟩ := h
  obtain ⟨u', hu', hle'⟩ := Traffic.rises_stamp r stampedPlace now hu
  exact ⟨u', hu', Std.le_trans hle hle'⟩

/-- No step lowers a place. -/
theorem Traffic.Step.reaches {s : Store} {w w' : Traffic} (hstep : Step s w w') {place : Nat} {t : Instant}
    (h : w.registry.Reaches place t) : w'.registry.Reaches place t := by
  obtain ⟨u, hu, hle⟩ := h
  obtain ⟨u', hu', hle'⟩ := hstep.grown.rises hu
  exact ⟨u', hu', Std.le_trans hle hle'⟩

/-- A place with an activation was allocated. -/
theorem Registry.lt_of_lastNotified {r : Registry} {place : Nat} {t : Instant} (h : r.lastNotified place = some t) :
    place < r.stamps.length := by
  refine Nat.lt_of_not_le fun hge => ?_
  rw [lastNotified, List.getElem?_eq_none hge] at h
  cases h

namespace Traffic

/-- Whose a place was before another was found. -/
theorem owner_of_ownersWith {w : Traffic} {found : String} {place : Nat} {identity : String}
    (h : (w.ownersWith found)[place]? = some identity) (hp : place < w.owners.length) : w.owners[place]? = some identity := by
  rw [List.getElem?_eq_getElem hp, ← h]
  exact (owners_ownersWith w found (List.getElem?_eq_getElem hp)).symm

/-! ## Places -/

/-- What the places of a registry have in common, whatever the store has: a registration is where its identity has its place, also one
that is on its way in, and a stamp that was given is at its place still. -/
structure Placed (w : Traffic) : Prop where
  allocated : w.owners.length = w.registry.stamps.length
  rising : w.registry.registered.Rising
  registered : ∀ {p : String × Registration}, p ∈ w.registry.registered → p.2.identity = p.1 ∧ w.owners[p.2.place]? = some p.1
  entering : ∀ {a : Arrival} {place : Nat}, w.entering = some (a, place) →
    w.owners[place]? = some a.identity ∧ ∀ {e : Registration}, w.registry.resolve a.identity = some e → e.place = place
  held : ∀ {e : Registration}, e ∈ w.held → e.place < w.registry.stamps.length
  given : ∀ {g : Stamped}, g ∈ w.given → ∃ t, w.registry.lastNotified g.place = some t ∧ g.time ≤ t

/-- Before the first step there are no places. -/
theorem placed_of_bus (b : Bus) : Placed { bus := b } where
  allocated := rfl
  rising := Keyed.rising_nil
  registered h := absurd h List.not_mem_nil
  entering h := by cases h
  held h := absurd h List.not_mem_nil
  given h := absurd h List.not_mem_nil

section Placed

variable {s : Store} {w w' : Traffic} (h : w.Placed)
include h

/-- The registry is sound: places of different identities are different. -/
theorem Placed.sound : w.registry.Sound where
  rising := h.rising
  named p hp := (h.registered hp).1
  placed p hp := by
    rw [← h.allocated]
    exact (List.getElem?_eq_some_iff.mp (h.registered hp).2).1
  distinct := by
    refine h.rising.imp_of_mem ?_
    intro p q hp hq hlt hsame
    have howner := (h.registered hp).2
    rw [hsame, (h.registered hq).2] at howner
    exact Std.ne_of_lt hlt (Option.some.inj howner).symm

/-- The place that is found for an identity is its own. -/
theorem Placed.owner_allocate (identity : String) : (w.ownersWith identity)[(w.registry.allocate identity).1]? = some identity := by
  unfold ownersWith Registry.contains
  cases he : w.registry.resolve identity with
  | some e =>
    rw [Registry.allocate_of_resolve he]
    exact (h.registered (Keyed.mem_of_get? he)).2
  | none =>
    rw [Registry.allocate_of_resolve_none he, ← h.allocated]
    exact List.getElem?_concat_length

/-- There are as many owners as places once a place is found. -/
theorem Placed.length_ownersWith (identity : String) :
    (w.ownersWith identity).length = (w.registry.allocate identity).2.stamps.length := by
  unfold ownersWith Registry.contains
  cases he : w.registry.resolve identity with
  | some e =>
    rw [Registry.allocate_of_resolve he]
    exact h.allocated
  | none =>
    rw [Registry.allocate_of_resolve_none he]
    simp [h.allocated]

/-- A registration that finds its place, finds the one its identity has. -/
theorem Placed.enter (a : Arrival) (arriving : List Arrival) :
    Placed { w with
      registry := (w.registry.allocate a.identity).2
      arriving
      entering := some (a, (w.registry.allocate a.identity).1)
      owners := w.ownersWith a.identity } where
  allocated := h.length_ownersWith a.identity
  rising := by
    rw [Registry.registered_allocate]
    exact h.rising
  registered hp := by
    rw [Registry.registered_allocate] at hp
    exact ⟨(h.registered hp).1, owners_ownersWith w _ (h.registered hp).2⟩
  entering he := by
    obtain ⟨rfl, rfl⟩ := Prod.mk.inj (Option.some.inj he)
    refine ⟨h.owner_allocate a.identity, fun {e} hresolve => ?_⟩
    have hresolve : w.registry.resolve a.identity = some e := by
      rw [Registry.resolve, Registry.registered_allocate] at hresolve
      exact hresolve
    rw [Registry.allocate_of_resolve hresolve]
  held he := Nat.lt_of_lt_of_le (h.held he) (Registry.length_stamps_allocate_le _ _)
  given hg := by
    obtain ⟨t, ht, hle⟩ := h.given hg
    exact ⟨t, (Registry.lastNotified_allocate _ _ _).trans ht, hle⟩

/-- A stamp leaves all places whose they are. -/
theorem Placed.stamp (place : Nat) (now : Instant) : Placed { w with registry := (w.registry.stamp place now).2 } where
  allocated := h.allocated.trans (Registry.length_stamps_stamp _ _ _).symm
  rising := h.rising
  registered := h.registered
  entering := h.entering
  held he := by
    rw [Registry.length_stamps_stamp]
    exact h.held he
  given hg := Registry.Reaches.stamp (h.given hg) place now

/-- Every step keeps the places. -/
theorem Placed.step (hstep : Step s w w') : w'.Placed := by
  cases hstep with
  | arrive | publish | announce | signal | close => exact { h with }
  | @enter a before behind hf ha => exact h.enter a _
  | @restore a place t he ht =>
    have hstamped := h.stamp place t
    refine { hstamped with entering := fun {b q} hb => ?_ }
    obtain ⟨rfl, rfl⟩ := Prod.mk.inj (Option.some.inj hb)
    have hplace := h.entering he
    exact hplace
  | @install a place he hr =>
    refine { h with rising := h.rising.insert _ _, registered := fun {p} hp => ?_, entering := fun hb => by cases hb }
    rcases Keyed.mem_of_mem_insert hp with rfl | hp
    · exact ⟨rfl, (h.entering he).1⟩
    · exact h.registered hp
  | remove identity hf =>
    refine { h with
      rising := h.rising.erase identity
      registered := fun hp => h.registered (Keyed.mem_erase.mp hp).1
      entering := fun {a place} he => ?_ }
    rw [hf] at he
    cases he
  | removeAll hf =>
    refine { h with
      rising := Keyed.rising_nil
      registered := fun hp => absurd hp List.not_mem_nil
      entering := fun {a place} he => ?_ }
    rw [hf] at he
    cases he
  | @hold identity e he =>
    refine { h with held := fun {f} hm => ?_ }
    rcases List.mem_cons.mp hm with rfl | hm
    · exact h.sound.place_lt he
    · exact h.held hm
  | @stamp e before behind he now =>
    have hstamped := h.stamp e.place now
    refine { hstamped with held := fun hm => hstamped.held (mem_of_mem_around he hm), given := fun {g} hg => ?_ }
    rcases List.mem_cons.mp hg with rfl | hg
    · have hplace : e.place < w.registry.stamps.length := h.held (he ▸ List.mem_append_right _ List.mem_cons_self)
      refine ⟨(w.registry.stamp e.place now).1, ?_, Std.le_refl _⟩
      rw [Registry.lastNotified_stamp _ hplace, if_pos rfl, Instant.latest_some, Registry.stamp_fst]
    · exact hstamped.given hg

/-- An identity that is registered before and after a step has the same place. -/
theorem Placed.place_eq (hstep : Step s w w') {identity : String} {e e' : Registration} (he : w.registry.resolve identity = some e)
    (he' : w'.registry.resolve identity = some e') : e'.place = e.place := by
  have same {e'} (he' : w.registry.resolve identity = some e') : e'.place = e.place := by
    rw [he] at he'
    rw [Option.some.inj he']
  cases hstep with
  | arrive | restore | hold | stamp | publish | announce | signal | close => exact same he'
  | enter before behind hf ha =>
    rw [Registry.resolve, Registry.registered_allocate] at he'
    exact same he'
  | @install a place hentering hr =>
    simp only [Registry.resolve, Registry.put] at he'
    by_cases hi : identity = a.identity
    · subst hi
      rw [Keyed.get?_insert_self] at he'
      rw [← Option.some.inj he', (h.entering hentering).2 he]
    · rw [Keyed.get?_insert_of_ne hi] at he'
      exact same he'
  | remove removed hf =>
    rw [Registry.resolve_remove] at he'
    split at he'
    · cases he'
    · exact same he'
  | removeAll hf => cases he'

/-- What is shown of an identity is shown after a step that does not remove it. -/
theorem Placed.reports (hstep : Step s w w') {identity : String} {t : Instant} (hr : w.registry.Reports identity t)
    (hc : w'.registry.contains identity) : w'.registry.Reports identity t := by
  obtain ⟨e, last, he, hreaches⟩ := hr
  obtain ⟨e', he'⟩ := Option.isSome_iff_exists.mp hc
  obtain ⟨last', hreaches'⟩ := hstep.reaches ⟨last, hreaches⟩
  rw [← h.place_eq hstep he he'] at hreaches'
  exact ⟨e', last', he', hreaches'⟩

end Placed

end Traffic

/-! ## The store -/

namespace Follower

/-- What the steps of the persister keep, whatever the store was loaded from: a flush only has steps of a flush left, and what was received
is in the store. -/
structure Steady (x : Follower) : Prop where
  flushes : ∀ {left : List FlushAction} {occasion : Occasion}, x.stage = .flushing left occasion →
    ∀ a ∈ left, ∃ refusal, a ∈ Flushing.flush refusal
  received : ∀ {identity : String} {t : Instant}, (identity, t) ∈ x.received → x.store.Reaches identity t

variable {w : Traffic} {x x' : Follower}

/-- No step lowers what the store has. -/
theorem Steady.reaches (h : x.Steady) (hstep : Step w x x') {identity : String} {t : Instant} (hr : x.store.Reaches identity t) :
    x'.store.Reaches identity t := by
  cases hstep with
  | record hs hr' => exact hr.record _ _
  | sync hs => exact hr.record _ _
  | @advance a left occasion hs =>
    obtain ⟨refusal, ha⟩ := h.flushes hs a List.mem_cons_self
    rw [Store.Reaches, Store.restored, Flushing.targets_step_of_flush ha]
    exact hr
  | subscribe | pass | lag | tick | leave | skip | drained | read | collected | resume | flush | proceed | finish => exact hr

/-- Every step keeps it. -/
theorem Steady.step (h : x.Steady) (hstep : Step w x x') : x'.Steady := by
  have hreceived {identity t} (hm : (identity, t) ∈ x.received) : x'.store.Reaches identity t := h.reaches hstep (h.received hm)
  cases hstep with
  | @record identity t position hs hr =>
    refine ⟨fun {left occasion} hl => h.flushes hl, fun {j u} hm => ?_⟩
    rcases List.mem_cons.mp hm with hm | hm
    · obtain ⟨rfl, rfl⟩ := Prod.mk.inj hm
      exact Store.reaches_record _ _ _
    · exact hreceived hm
  | flush hs ho refusal =>
    refine ⟨fun {left occasion} hl a ha => ⟨refusal, ?_⟩, hreceived⟩
    obtain ⟨rfl, rfl⟩ := Stage.flushing.inj hl
    exact ha
  | advance hs =>
    refine ⟨fun {left occasion} hl a ha => ?_, hreceived⟩
    obtain ⟨rfl, rfl⟩ := Stage.flushing.inj hl
    exact h.flushes hs a (List.mem_cons_of_mem _ ha)
  | pass hs hr he => exact ⟨fun {left occasion} hl => h.flushes hl, hreceived⟩
  | skip hs hr => exact ⟨fun {left occasion} hl => h.flushes hl, hreceived⟩
  | subscribe | lag | tick | leave | drained | read | collected | sync | resume | proceed | finish =>
    exact ⟨fun {left occasion} hl => (by cases hl), hreceived⟩

end Follower

/-! ## Runs -/

namespace Persisting

/-- What all steps keep, whatever was loaded. -/
structure Steady (x : Persisting) : Prop where
  placed : x.traffic.Placed
  follower : x.follower.Steady

/-- It is so at the start. -/
theorem steady_start (vault : Vault) (files : Files) (capacity : Nat) : (start vault files capacity).Steady where
  placed := Traffic.placed_of_bus _
  follower := ⟨fun {left occasion} hl => (by cases hl), fun {identity t} hm => absurd hm List.not_mem_nil⟩

/-- A step of anybody keeps it. -/
theorem Steady.step {x y : Persisting} (h : x.Steady) (hstep : Step x y) : y.Steady := by
  cases hstep with
  | traffic hw => exact ⟨h.placed.step hw, h.follower⟩
  | follower hx => exact ⟨h.placed, h.follower.step hx⟩

/-- Every run keeps it. -/
theorem Steady.runs {x y : Persisting} (h : x.Steady) (hruns : Runs x y) : y.Steady := by
  induction hruns with
  | refl => exact h
  | tail _ hstep ih => exact ih.step hstep

/-- No run lowers what the store has. -/
theorem Steady.reaches {x y : Persisting} (h : x.Steady) (hruns : Runs x y) {identity : String} {t : Instant}
    (hr : x.store.Reaches identity t) : y.store.Reaches identity t := by
  induction hruns with
  | refl => exact hr
  | tail hbefore hstep ih =>
    have hsteady := h.runs hbefore
    cases hstep with
    | traffic hw => exact ih
    | follower hx => exact hsteady.follower.reaches hx ih

/-- Any number of steps during which an identity stays registered. -/
abbrev Keeps (identity : String) : Persisting → Persisting → Prop :=
  ReflTransGen fun x y => Step x y ∧ y.traffic.registry.contains identity

/-- Steps during which an identity stays registered are steps. -/
theorem Keeps.runs {identity : String} {x y : Persisting} (h : Keeps identity x y) : Runs x y :=
  ReflTransGen.mono (p := Step) (fun _ _ hstep => And.left hstep) _ _ h

/-- What is shown of an identity is shown as long as it stays registered. -/
theorem Steady.reports {x y : Persisting} (h : x.Steady) {identity : String} (hkeeps : Keeps identity x y) {t : Instant}
    (hr : x.traffic.registry.Reports identity t) : y.traffic.registry.Reports identity t := by
  induction hkeeps with
  | refl => exact hr
  | tail hbefore hstep ih =>
    have hsteady := h.runs (Keeps.runs hbefore)
    obtain ⟨hstep, hc⟩ := hstep
    cases hstep with
    | traffic hw => exact hsteady.placed.reports hw ih hc
    | follower hx => exact ih

/-- An identity has its place as long as it stays registered. -/
theorem Steady.place_eq {x y : Persisting} (h : x.Steady) {identity : String} (hkeeps : Keeps identity x y) {e : Registration}
    (he : x.traffic.registry.resolve identity = some e) : ∃ f, y.traffic.registry.resolve identity = some f ∧ f.place = e.place := by
  induction hkeeps with
  | refl => exact ⟨e, he, rfl⟩
  | tail hbefore hstep ih =>
    obtain ⟨f, hf, hplace⟩ := ih
    have hsteady := h.runs (Keeps.runs hbefore)
    obtain ⟨hstep, hc⟩ := hstep
    cases hstep with
    | traffic hw =>
      obtain ⟨f', hf'⟩ := Option.isSome_iff_exists.mp hc
      exact ⟨f', hf', (hsteady.placed.place_eq hw hf hf').trans hplace⟩
    | follower hx => exact ⟨f, hf, hplace⟩

/-! ## A registration that comes later -/

/-- A call that registers a target, from when it looks up what was saved to when the target is found: it waits for the registry, finds its
place, and holds the registry until the target stands there. Anything else may happen in between. -/
inductive Registers (identity : String) (target : Target) (x : Persisting) : Persisting → Prop
  | call {a : Arrival} {w w' : Traffic} {f : Follower} {x₁ y : Persisting} (before behind : List Arrival)
    (hlook : a = ⟨identity, target, x.store.restored identity⟩)
    (hwait : Runs ⟨{ x.traffic with arriving := a :: x.traffic.arriving }, x.follower⟩ ⟨w, f⟩)
    (hturn : w.arriving = before ++ a :: behind) (hfree : w.entering = none)
    (henter : w' = { w with
      registry := (w.registry.allocate a.identity).2
      arriving := before ++ behind
      entering := some (a, (w.registry.allocate a.identity).1)
      owners := w.ownersWith a.identity })
    (hinside : ReflTransGen (fun u v => Step u v ∧ v.traffic.entering.isSome) ⟨w', f⟩ x₁)
    (hinstall : Step x₁ y) (hdone : y.traffic.entering = none) : Registers identity target x y

/-- A call that nothing interrupts registers the target with what the store has for it. -/
theorem exists_registers {x : Persisting} (hfree : x.traffic.entering = none) (identity : String) (target : Target) :
    ∃ y, Registers identity target x y ∧
      y.traffic.registry = (x.traffic.registry.register (x.store.restored identity) identity target).1 := by
  obtain ⟨w, f⟩ := x
  cases hr : f.store.restored identity with
  | none =>
    have hlook : (⟨identity, target, none⟩ : Arrival) = ⟨identity, target, f.store.restored identity⟩ := by rw [hr]
    exact ⟨_, .call [] _ hlook .refl rfl hfree rfl .refl (.traffic (.install rfl rfl)) rfl, rfl⟩
  | some t =>
    have hlook : (⟨identity, target, some t⟩ : Arrival) = ⟨identity, target, f.store.restored identity⟩ := by rw [hr]
    exact ⟨_, .call [] _ hlook .refl rfl hfree rfl (.single ⟨.traffic (.restore rfl rfl), rfl⟩) (.traffic (.install rfl rfl)) rfl, rfl⟩

/-- A registration on its way in that will show some activation: it has it at hand still, or its place has it already. -/
def Brings (w : Traffic) (identity : String) (t : Instant) : Prop :=
  ∃ a place, w.entering = some (a, place) ∧ a.identity = identity ∧
    (a.restored = some t ∨ a.restored = none ∧ ∃ t', w.registry.lastNotified place = some t' ∧ t ≤ t')

/-- It is on its way, or it is there and shows the activation. -/
theorem Brings.step {s : Store} {w w' : Traffic} (h : w.Placed) {identity : String} {t : Instant} (hb : Brings w identity t)
    (hstep : Traffic.Step s w w') :
    w'.entering.isSome ∧ Brings w' identity t ∨ w'.entering = none ∧ w'.registry.Reports identity t := by
  obtain ⟨a, place, he, hi, hrestored⟩ := hb
  have stays (he' : w'.entering = w.entering) : w'.entering.isSome ∧ Brings w' identity t := by
    rw [Brings, he', he]
    refine ⟨rfl, a, place, rfl, hi, ?_⟩
    rcases hrestored with hr | ⟨hr, hreaches⟩
    · exact .inl hr
    · exact .inr ⟨hr, hstep.reaches hreaches⟩
  cases hstep with
  | arrive | hold | stamp | publish | announce | signal | close => exact .inl (stays rfl)
  | enter before behind hf ha =>
    rw [hf] at he
    cases he
  | remove removed hf =>
    rw [hf] at he
    cases he
  | removeAll hf =>
    rw [hf] at he
    cases he
  | @restore b q u hb hu =>
    rw [he] at hb
    obtain ⟨rfl, rfl⟩ := Prod.mk.inj (Option.some.inj hb)
    refine .inl ⟨rfl, _, _, rfl, hi, .inr ⟨rfl, ?_⟩⟩
    rcases hrestored with hr | ⟨hr, _⟩
    · rw [hr] at hu
      obtain rfl := Option.some.inj hu
      have hplace : place < w.registry.stamps.length := by
        rw [← h.allocated]
        exact (List.getElem?_eq_some_iff.mp (h.entering he).1).1
      exact Registry.reaches_stamp _ hplace t
    · rw [hr] at hu
      cases hu
  | @install b q hb hr =>
    rw [he] at hb
    obtain ⟨rfl, rfl⟩ := Prod.mk.inj (Option.some.inj hb)
    rcases hrestored with hu | ⟨_, t', ht', hle⟩
    · rw [hr] at hu
      cases hu
    · refine .inr ⟨rfl, ⟨a.identity, place, w.registry.registrations, a.target⟩, t', ?_, ht', hle⟩
      rw [← hi]
      exact Keyed.get?_insert_self _ _ _

/-- While it holds the registry it is on its way. -/
theorem Brings.inside {x y : Persisting} (h : x.Steady) {identity : String} {t : Instant} (hb : Brings x.traffic identity t)
    (hinside : ReflTransGen (fun u v => Step u v ∧ v.traffic.entering.isSome) x y) : y.Steady ∧ Brings y.traffic identity t := by
  induction hinside with
  | refl => exact ⟨h, hb⟩
  | tail _ hstep ih =>
    obtain ⟨hsteady, hb⟩ := ih
    obtain ⟨hstep, hsome⟩ := hstep
    refine ⟨hsteady.step hstep, ?_⟩
    cases hstep with
    | traffic hw =>
      rcases hb.step hsteady.placed hw with ⟨_, hb'⟩ | ⟨hnone, _⟩
      · exact hb'
      · rw [hnone] at hsome
        cases hsome
    | follower hx => exact hb

/-- A registration shows at least what its call found in the store. -/
theorem Registers.reports {x y : Persisting} (h : x.Steady) {identity : String} {target : Target} (hcall : Registers identity target x y)
    {t : Instant} (hr : x.store.Reaches identity t) : y.traffic.registry.Reports identity t := by
  obtain @⟨a, w, w', f, x₁, y, before, behind, hlook, hwait, hturn, hfree, henter, hinside, hinstall, hdone⟩ := hcall
  obtain ⟨u, hu, hle⟩ := hr
  have hlooked : Persisting.Steady ⟨{ x.traffic with arriving := a :: x.traffic.arriving }, x.follower⟩ := ⟨{ h.placed with }, h.follower⟩
  have hwaited := hlooked.runs hwait
  have hentered : Persisting.Steady ⟨w', f⟩ := ⟨henter ▸ hwaited.placed.enter a _, hwaited.follower⟩
  have hbrings : Brings w' identity u := by
    subst henter hlook
    exact ⟨_, _, rfl, rfl, .inl hu⟩
  obtain ⟨hsteady, hb⟩ := hbrings.inside hentered hinside
  have hreports : y.traffic.registry.Reports identity u := by
    cases hinstall with
    | traffic hw =>
      rcases hb.step hsteady.placed hw with ⟨hsome, _⟩ | ⟨_, hreports⟩
      · rw [hdone] at hsome
        cases hsome
      · exact hreports
    | follower hx =>
      obtain ⟨b, place, hb, _⟩ := hb
      rw [hdone] at hb
      cases hb
  obtain ⟨e, t', he, ht', hle'⟩ := hreports
  exact ⟨e, t', he, ht', Std.le_trans hle hle'⟩

/-- Whatever was loaded and whatever has happened: what is shown of an identity is shown as long as it stays registered; so is every stamp
at the place where a dispatch found it. What the persister received is in the store, which never goes back, and a registration that is
looked up there starts with it. The snapshot shows what a look-up shows. -/
theorem activation_is_shown_while_registered (vault : Vault) (files : Files) (capacity : Nat) {x : Persisting}
    (hx : Runs (start vault files capacity) x) (identity : String) :
    (∀ t, x.traffic.registry.Reports identity t → ∀ y, Keeps identity x y → y.traffic.registry.Reports identity t) ∧
    (∀ e, x.traffic.registry.resolve identity = some e → ∀ y, Keeps identity x y → ∀ g ∈ y.traffic.given, g.place = e.place →
      y.traffic.registry.Reports identity g.time) ∧
    (∀ t, (identity, t) ∈ x.follower.received → x.store.Reaches identity t) ∧
    (∀ t, x.store.Reaches identity t → (∀ y, Runs x y → y.store.Reaches identity t) ∧
      ∀ target y, Registers identity target x y → y.traffic.registry.Reports identity t) ∧
    ∀ t, x.traffic.registry.Reports identity t → ∀ i ∈ x.traffic.registry.snapshot, i.identity = identity →
      ∃ t', i.lastNotified = some t' ∧ t ≤ t' := by
  have h := (steady_start vault files capacity).runs hx
  refine ⟨?_, ?_, ?_, ?_, ?_⟩
  · intro t hr y hkeeps
    exact h.reports hkeeps hr
  · intro e he y hkeeps g hg hplace
    obtain ⟨f, hf, hsame⟩ := h.place_eq hkeeps he
    obtain ⟨t, ht, hle⟩ := (h.runs hkeeps.runs).placed.given hg
    rw [hplace, ← hsame] at ht
    exact ⟨f, t, hf, ht, hle⟩
  · intro t hm
    exact h.follower.received hm
  · intro t hr
    refine ⟨fun y hruns => h.reaches hruns hr, ?_⟩
    intro target y hcall
    exact hcall.reports h hr
  · intro t hr i hi hname
    exact hr.snapshot h.placed.sound hi hname

/-- A target is stamped, the persister receives the stamp, the target is removed, and another is registered: it shows the stamp. -/
theorem received_stamp_is_restored :
    ∃ x y, Runs (start ⟨⟨[], false⟩, .emptyMemory⟩ {} 1) x ∧ x.traffic.registry.contains "a" = false ∧
      Registers "a" { channel := .inbox } x y ∧ y.traffic.registry.Reports "a" .epoch := by
  let vault : Vault := ⟨⟨[], false⟩, .emptyMemory⟩
  suffices hlast : ∀ x, Runs (start vault {} 1) x → x.traffic.entering = none → x.traffic.registry.contains "a" = false →
      ("a", .epoch) ∈ x.follower.received → ∃ x y, Runs (start vault {} 1) x ∧ x.traffic.registry.contains "a" = false ∧
        Registers "a" { channel := .inbox } x y ∧ y.traffic.registry.Reports "a" .epoch by
    have hsubscribe : Runs (start vault {} 1) _ := .single (.follower (.subscribe rfl))
    have hinstall := ((ReflTransGen.single (Traffic.Step.arrive (s := vault.store) (w := (start vault {} 1).traffic) "a"
      { channel := .log } (.inl rfl))).tail (.enter [] [] rfl rfl)).tail (.install rfl rfl)
    have hstamp := (hinstall.tail (.hold "a" (e := ⟨"a", 0, 0, { channel := .log }⟩) rfl)).tail (.stamp [] [] rfl .epoch)
    have hpublish := hsubscribe.trans (runs_traffic (hstamp.tail (.publish [] [] rfl rfl)))
    have hwaiting : ((Bus.ofCapacity 1).publish (.activated "a" .epoch)).receive 0 = some (.event (.activated "a" .epoch), 1) := by cbv
    have hreceive := hpublish.tail (.follower (.record rfl hwaiting))
    exact hlast _ (hreceive.tail (.traffic (.remove "a" rfl))) rfl rfl List.mem_cons_self
  intro x hx hfree hgone hreceived
  obtain ⟨_, _, hlearned, hrestored, _⟩ := activation_is_shown_while_registered vault {} 1 hx "a"
  obtain ⟨_, hstarts⟩ := hrestored .epoch (hlearned .epoch hreceived)
  obtain ⟨y, hcall, _⟩ := exists_registers hfree "a" { channel := .inbox }
  exact ⟨x, y, hx, hgone, hcall, hstarts _ _ hcall⟩

/-- A target is stamped, and removed before the persister learns of it. Another that is registered then shows no activation, though the
stamp was given. -/
theorem removal_may_forget :
    ¬∀ vault files capacity x y, Runs (start vault files capacity) x → Runs x y → ∀ g ∈ x.traffic.given,
      y.traffic.registry.contains g.identity → y.traffic.registry.Reports g.identity g.time := by
  intro hclaim
  let vault : Vault := ⟨⟨[], false⟩, .emptyMemory⟩
  have hinstall := ((ReflTransGen.single (Traffic.Step.arrive (s := vault.store) (w := (start vault {} 1).traffic) "a"
    { channel := .log } (.inr rfl))).tail (.enter [] [] rfl rfl)).tail (.install rfl rfl)
  have hstamp := (hinstall.tail (.hold "a" (e := ⟨"a", 0, 0, { channel := .log }⟩) rfl)).tail (.stamp [] [] rfl .epoch)
  -- it is removed, and another is registered
  obtain ⟨e, t, he, ht, _⟩ := hclaim vault {} 1 _ _ (runs_traffic hstamp)
    (runs_traffic (.head (.remove "a" rfl) (.head (.arrive "a" { channel := .log } (.inr rfl)) (.head (.enter [] [] rfl rfl)
      (.single (.install rfl rfl)))))) _ List.mem_cons_self rfl
  obtain rfl := Option.some.inj he
  cases ht

end Persisting

end Herald
