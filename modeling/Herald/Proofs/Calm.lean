import Herald.Proofs.Presence

/-!
# Runs without removals

In a calm run nothing is removed, every registration looks up what was saved, and from the signal on no dispatch is on its way. Then every
identity has one place for good, and what is found there is not before what was loaded for it, nor before any stamp that it was given
(`Persisting.Tame`). What the store has was loaded or stamped, so it is not after what is found at the place.

When the registry is asked after the signal, nothing rises behind the one who asks: what is found at a place that was asked is in the
store, or on its way there (`Persisting.Covered`). So when all answers are recorded, the store and the registry agree.
-/

namespace Herald

open Relation (ReflTransGen)

/-- What is registered stays so when a registration puts itself there. -/
theorem Registry.contains_put {r : Registry} {i : String} (hc : r.contains i) (identity : String) (place : Nat) (target : Target) :
    (r.put identity place target).contains i := by
  rw [contains, resolve, put]
  by_cases hi : i = identity
  · rw [hi, Keyed.get?_insert_self]
    rfl
  · rw [Keyed.get?_insert_of_ne hi]
    exact hc

/-- What a registration on its way has at hand: no more than the store, and no less than what was loaded. -/
structure Arrival.Informed (loaded s : Store) (a : Arrival) : Prop where
  known : ∀ {u : Instant}, a.restored = some u → s.Reaches a.identity u
  loaded : ∀ {t : Instant}, loaded.restored a.identity = some t → ∃ u, a.restored = some u ∧ t ≤ u

/-- The signal is not taken back. -/
theorem Traffic.Step.signalled {s : Store} {w w' : Traffic} (hstep : Step s w w') (h : w.signalled) : w'.signalled := by
  cases hstep with
  | signal => rfl
  | _ => exact h

/-- The activation that a registry has of an identity, or what is known of it otherwise if it is not registered. -/
def Registry.lastKnown (r : Registry) (known : String → Option Instant) (identity : String) : Option Instant :=
  match r.resolve identity with
  | some e => r.lastNotified e.place
  | none => known identity

theorem Registry.lastKnown_of_resolve {r : Registry} {identity : String} {e : Registration} (he : r.resolve identity = some e)
    (known : String → Option Instant) : r.lastKnown known identity = r.lastNotified e.place := by
  rw [lastKnown, he]

theorem Registry.lastKnown_of_resolve_none {r : Registry} {identity : String} (he : r.resolve identity = none)
    (known : String → Option Instant) : r.lastKnown known identity = known identity := by
  rw [lastKnown, he]

/-- A clock can show what is known, if it can show what the registry has and what was known before. -/
theorem Registry.onClock_of_lastKnown {r : Registry} (hr : ∀ a ∈ r.activations, a.2.OnClock) {known : String → Option Instant}
    {identity : String} (hknown : ∀ {t}, known identity = some t → t.OnClock) {t : Instant}
    (ht : r.lastKnown known identity = some t) : t.OnClock := by
  cases he : r.resolve identity with
  | none => exact hknown ((Registry.lastKnown_of_resolve_none he known).symm.trans ht)
  | some e =>
    rw [Registry.lastKnown_of_resolve he] at ht
    exact hr _ (Registry.mem_activations.mpr ⟨e, Keyed.mem_of_get? he, ht⟩)

namespace Persisting

/-- A step of a run in which nothing is removed. -/
structure Calm (x y : Persisting) : Prop where
  step : Step x y
  keeps : ∀ identity, x.traffic.registry.contains identity → y.traffic.registry.contains identity
  /-- A registration looks up the store. -/
  looks : ∀ a ∈ y.traffic.arriving, a ∈ x.traffic.arriving ∨ a.restored = x.store.restored a.identity
  /-- From the signal on no dispatch is on its way. -/
  quiet : y.traffic.signalled → y.traffic.held = [] ∧ y.traffic.unpublished = []

/-- Any number of calm steps. -/
abbrev CalmRuns : Persisting → Persisting → Prop :=
  ReflTransGen Calm

/-- A calm run is a run. -/
theorem CalmRuns.runs {x y : Persisting} (h : CalmRuns x y) : Runs x y :=
  ReflTransGen.mono (p := Step) (fun _ _ hcalm => Calm.step hcalm) _ _ h

/-- After the signal no dispatch is on its way. -/
theorem CalmRuns.quiet {x y : Persisting} (h : CalmRuns x y) (hx : x.traffic.signalled = false) (hs : y.traffic.signalled) :
    y.traffic.held = [] ∧ y.traffic.unpublished = [] := by
  cases h with
  | refl =>
    rw [hx] at hs
    cases hs
  | tail _ hcalm => exact hcalm.quiet hs

/-- What calm steps keep, from what was loaded on. -/
structure Tame (loaded : Store) (x : Persisting) : Prop where
  sound : x.Sound loaded
  placed : x.traffic.Placed
  unique : x.traffic.owners.Nodup
  /-- A place is the one of a registration, also of one that is on its way in. -/
  homes : ∀ {place : Nat} {identity : String}, x.traffic.owners[place]? = some identity →
    (∃ e, x.traffic.registry.resolve identity = some e ∧ e.place = place) ∨
      ∃ a, x.traffic.entering = some (a, place) ∧ a.identity = identity
  held : ∀ {e : Registration}, e ∈ x.traffic.held → x.traffic.registry.contains e.identity
  remembered : ∀ {identity : String} {t : Instant}, loaded.restored identity = some t → x.store.Reaches identity t
  arriving : ∀ {a : Arrival}, a ∈ x.traffic.arriving → a.Informed loaded x.store
  /-- A registration on its way in has at hand what was loaded, or it is at its place already. -/
  entering : ∀ {a : Arrival} {place : Nat}, x.traffic.entering = some (a, place) →
    (∀ {u : Instant}, a.restored = some u → x.store.Reaches a.identity u) ∧
      ∀ {t : Instant}, loaded.restored a.identity = some t →
        (∃ u, a.restored = some u ∧ t ≤ u) ∨ x.traffic.registry.Reaches place t
  /-- At the place of an identity that was not registered before there is nothing but what the store has. -/
  fresh : ∀ {a : Arrival} {place : Nat} {t : Instant}, x.traffic.entering = some (a, place) →
    x.traffic.registry.resolve a.identity = none → x.traffic.registry.lastNotified place = some t → x.store.Reaches a.identity t
  registered : ∀ {identity : String} {e : Registration} {t : Instant}, x.traffic.registry.resolve identity = some e →
    loaded.restored identity = some t → x.traffic.registry.Reaches e.place t

/-- A registry that lost nothing when something was removed, did not have it. -/
theorem remove_of_keeps {r : Registry} {identity : String}
    (h : ∀ i, r.contains i → (r.remove identity).contains i) : r.remove identity = r := by
  have hnone : r.resolve identity = none := by
    cases he : r.resolve identity with
    | none => rfl
    | some e =>
      have hc := h identity (by rw [Registry.contains, he]; rfl)
      rw [Registry.contains, Registry.resolve_remove, if_pos rfl] at hc
      cases hc
  rw [Registry.remove, Keyed.erase_of_get?_none hnone]

/-- A registry that lost nothing when everything was removed, had nothing. -/
theorem removeAll_of_keeps {r : Registry} (hs : r.Sound) (h : ∀ i, r.contains i → r.removeAll.contains i) : r.removeAll = r := by
  have hnone : r.registered = [] := by
    rw [List.eq_nil_iff_forall_not_mem]
    intro p hp
    have hc := h p.1 (by rw [Registry.contains, hs.resolve_eq_some_iff.mpr hp]; rfl)
    cases hc
  rw [Registry.removeAll, ← hnone]

section Tame

variable {loaded : Store} {x y : Persisting}

/-- A registration that looks up the store is informed. -/
theorem Tame.informed (h : x.Tame loaded) {a : Arrival} (ha : a.restored = x.store.restored a.identity) : a.Informed loaded x.store where
  known hu := ⟨_, ha.symm.trans hu, Std.le_refl _⟩
  loaded ht := by
    obtain ⟨u, hu, hle⟩ := h.remembered ht
    exact ⟨u, ha.trans hu, hle⟩

/-- A step of the persister keeps it, for it only adds to the store. -/
theorem Tame.follower {w : Traffic} {f f' : Follower} (h : Tame loaded ⟨w, f⟩) (hstep : Follower.Step w f f') : Tame loaded ⟨w, f'⟩ := by
  have hmono {identity : String} {t : Instant} (hr : f.store.Reaches identity t) : f'.store.Reaches identity t :=
    hstep.reaches h.sound.follower hr
  refine { h with
    sound := h.sound.step (.follower hstep)
    remembered := fun ht => hmono (h.remembered ht)
    arriving := fun ha => ⟨fun hu => hmono ((h.arriving ha).known hu), (h.arriving ha).loaded⟩
    entering := fun he => ⟨fun hu => hmono ((h.entering he).1 hu), (h.entering he).2⟩
    fresh := fun he hnone ht => hmono (h.fresh he hnone ht) }

/-- A place that is found for an identity without one is nobody else's. -/
theorem Tame.nodup_ownersWith (h : x.Tame loaded) (hfree : x.traffic.entering = none) (identity : String) :
    (x.traffic.ownersWith identity).Nodup := by
  unfold Traffic.ownersWith
  split
  · exact h.unique
  · next hc =>
    refine List.nodup_append.mpr ⟨h.unique, List.pairwise_singleton _ _, ?_⟩
    rintro i hi j hj rfl
    obtain rfl := List.mem_singleton.mp hj
    obtain ⟨place, hplace⟩ := List.getElem?_of_mem hi
    rcases h.homes hplace with ⟨e, he, _⟩ | ⟨a, ha, _⟩
    · exact hc (by rw [Registry.contains, he]; rfl)
    · rw [hfree] at ha
      cases ha

/-- Finding a place keeps it. -/
theorem Tame.enter {w : Traffic} {f : Follower} (h : Tame loaded ⟨w, f⟩) {a : Arrival} {before behind : List Arrival}
    (hf : w.entering = none) (ha : w.arriving = before ++ a :: behind) :
    Tame loaded ⟨{ w with
      registry := (w.registry.allocate a.identity).2
      arriving := before ++ behind
      entering := some (a, (w.registry.allocate a.identity).1)
      owners := w.ownersWith a.identity }, f⟩ := by
  have hstep : Traffic.Step f.store w _ := .enter before behind hf ha
  have hmem : a ∈ w.arriving := ha ▸ List.mem_append_right _ List.mem_cons_self
  have hresolve (i : String) : (w.registry.allocate a.identity).2.resolve i = w.registry.resolve i := by
    rw [Registry.resolve, Registry.registered_allocate, ← Registry.resolve]
  have hlast (place : Nat) : (w.registry.allocate a.identity).2.lastNotified place = w.registry.lastNotified place :=
    Registry.lastNotified_allocate _ _ _
  constructor
  case sound => exact h.sound.step (.traffic hstep)
  case placed => exact h.placed.step hstep
  case unique => exact h.nodup_ownersWith hf a.identity
  case homes =>
    intro place identity ho
    simp only [hresolve]
    have ho : (w.ownersWith a.identity)[place]? = some identity := ho
    by_cases hp : place < w.owners.length
    · have hold : w.owners[place]? = some identity := by
        rw [List.getElem?_eq_getElem hp, ← ho]
        exact (Traffic.owners_ownersWith w _ (List.getElem?_eq_getElem hp)).symm
      rcases h.homes hold with he | ⟨b, hb, _⟩
      · exact .inl he
      · rw [hf] at hb
        cases hb
    · -- the place is the new one
      unfold Traffic.ownersWith at ho
      split at ho
      · exact absurd (List.getElem?_eq_some_iff.mp ho).1 hp
      · next hc =>
        have hnone : w.registry.resolve a.identity = none := by simpa [Registry.contains] using hc
        have hlt := (List.getElem?_eq_some_iff.mp ho).1
        obtain rfl : place = w.owners.length := by
          rw [List.length_append, List.length_singleton] at hlt
          omega
        refine .inr ⟨a, ?_, ?_⟩
        · rw [Registry.allocate_of_resolve_none hnone, h.placed.allocated]
        · rw [List.getElem?_concat_length] at ho
          exact Option.some.inj ho
  case held =>
    intro e he
    have hc := h.held he
    rwa [Registry.contains, hresolve]
  case remembered => exact h.remembered
  case arriving => exact fun hb => h.arriving (Traffic.mem_of_mem_around ha hb)
  case entering =>
    intro b place hb
    obtain ⟨rfl, rfl⟩ := Prod.mk.inj (Option.some.inj hb)
    exact ⟨(h.arriving hmem).known, fun ht => .inl ((h.arriving hmem).loaded ht)⟩
  case fresh =>
    intro b place t hb hnone ht
    obtain ⟨rfl, rfl⟩ := Prod.mk.inj (Option.some.inj hb)
    have hnone : w.registry.resolve a.identity = none := (hresolve _).symm.trans hnone
    have ht : w.registry.lastNotified w.registry.stamps.length = some t := by
      rw [← hlast, ← ht, Registry.allocate_of_resolve_none hnone]
    exact absurd (Registry.lt_of_lastNotified ht) (Nat.lt_irrefl _)
  case registered =>
    intro identity e t he ht
    obtain ⟨u, hu, hle⟩ := h.registered ((hresolve _).symm.trans he) ht
    exact ⟨u, (hlast _).trans hu, hle⟩

/-- Restoring keeps it: the place is raised to what is at hand. -/
theorem Tame.restore {w : Traffic} {f : Follower} (h : Tame loaded ⟨w, f⟩) {a : Arrival} {place : Nat} {t : Instant}
    (he : w.entering = some (a, place)) (ht : a.restored = some t) :
    Tame loaded ⟨{ w with registry := (w.registry.stamp place t).2, entering := some ({ a with restored := none }, place) }, f⟩ := by
  have hstep : Traffic.Step f.store w _ := .restore he ht
  have hplace : place < w.registry.stamps.length := h.sound.traffic.place_lt (h.placed.entering he).1
  constructor
  case sound => exact h.sound.step (.traffic hstep)
  case placed => exact h.placed.step hstep
  case unique => exact h.unique
  case homes =>
    intro p identity ho
    rcases h.homes ho with hr | ⟨b, hb, hi⟩
    · exact .inl hr
    · obtain ⟨rfl, rfl⟩ := Prod.mk.inj (Option.some.inj (he.symm.trans hb))
      exact .inr ⟨_, rfl, hi⟩
  case held => exact h.held
  case remembered => exact h.remembered
  case arriving => exact h.arriving
  case entering =>
    intro b p hb
    obtain ⟨rfl, rfl⟩ := Prod.mk.inj (Option.some.inj hb)
    refine ⟨fun {u} hu => (by cases hu), fun {u} hu => .inr ?_⟩
    rcases (h.entering he).2 hu with ⟨v, hv, hle⟩ | hr
    · obtain rfl := Option.some.inj (ht.symm.trans hv)
      obtain ⟨v, hv, hle'⟩ := w.registry.reaches_stamp hplace t
      exact ⟨v, hv, Std.le_trans hle hle'⟩
    · exact hr.stamp place t
  case fresh =>
    intro b p u hb hnone hu
    obtain ⟨rfl, rfl⟩ := Prod.mk.inj (Option.some.inj hb)
    have hu : (w.registry.stamp place t).2.lastNotified place = some u := hu
    rw [Registry.lastNotified_stamp _ hplace, if_pos rfl] at hu
    rcases Instant.eq_of_latest hu with hold | hnow
    · exact h.fresh (a := a) he hnone hold
    · exact (h.entering he).1 (ht.trans hnow)
  case registered => exact fun hr hu => (h.registered hr hu).stamp place t

/-- A registration that puts itself there keeps it. -/
theorem Tame.install {w : Traffic} {f : Follower} (h : Tame loaded ⟨w, f⟩) {a : Arrival} {place : Nat}
    (he : w.entering = some (a, place)) (hr : a.restored = none) :
    Tame loaded ⟨{ w with registry := w.registry.put a.identity place a.target, entering := none }, f⟩ := by
  have hstep : Traffic.Step f.store w _ := .install he hr
  let new : Registration := ⟨a.identity, place, w.registry.registrations, a.target⟩
  have hself : (w.registry.put a.identity place a.target).resolve a.identity = some new := Keyed.get?_insert_self _ _ _
  have hother {i : String} (hi : i ≠ a.identity) : (w.registry.put a.identity place a.target).resolve i = w.registry.resolve i :=
    Keyed.get?_insert_of_ne hi _ _
  constructor
  case sound => exact h.sound.step (.traffic hstep)
  case placed => exact h.placed.step hstep
  case unique => exact h.unique
  case homes =>
    intro p identity ho
    refine .inl ?_
    by_cases hi : identity = a.identity
    · subst hi
      refine ⟨new, hself, ?_⟩
      rcases h.homes ho with ⟨e, hresolve, hp⟩ | ⟨b, hb, _⟩
      · exact ((h.placed.entering he).2 hresolve).symm.trans hp
      · exact (Prod.mk.inj (Option.some.inj (he.symm.trans hb))).2
    · rcases h.homes ho with ⟨e, hresolve, hp⟩ | ⟨b, hb, hb'⟩
      · exact ⟨e, (hother hi).trans hresolve, hp⟩
      · obtain ⟨rfl, rfl⟩ := Prod.mk.inj (Option.some.inj (he.symm.trans hb))
        exact absurd hb'.symm hi
  case held => exact fun hm => Registry.contains_put (h.held hm) _ _ _
  case remembered => exact h.remembered
  case arriving => exact h.arriving
  case entering => exact fun hb => by cases hb
  case fresh => exact fun hb => by cases hb
  case registered =>
    intro identity e t hresolve ht
    by_cases hi : identity = a.identity
    · subst hi
      obtain rfl := Option.some.inj (hself.symm.trans hresolve)
      rcases (h.entering he).2 ht with ⟨u, hu, _⟩ | hreaches
      · rw [hr] at hu
        cases hu
      · exact hreaches
    · exact h.registered ((hother hi).symm.trans hresolve) ht

/-- A stamp keeps it: what it raises is the place of an identity that is registered. -/
theorem Tame.stamp {w : Traffic} {f : Follower} (h : Tame loaded ⟨w, f⟩) {e : Registration} {before behind : List Registration}
    (he : w.held = before ++ e :: behind) (now : Instant) :
    Tame loaded ⟨{ w with
      registry := (w.registry.stamp e.place now).2
      held := before ++ behind
      unpublished := (e.identity, (w.registry.stamp e.place now).1) :: w.unpublished
      given := ⟨e.identity, e.place, (w.registry.stamp e.place now).1⟩ :: w.given }, f⟩ := by
  have hstep : Traffic.Step f.store w _ := .stamp before behind he now
  have hmem : e ∈ w.held := he ▸ List.mem_append_right _ List.mem_cons_self
  have howner := h.sound.traffic.held hmem
  constructor
  case sound => exact h.sound.step (.traffic hstep)
  case placed => exact h.placed.step hstep
  case unique => exact h.unique
  case homes => exact h.homes
  case held => exact fun hm => h.held (Traffic.mem_of_mem_around he hm)
  case remembered => exact h.remembered
  case arriving => exact h.arriving
  case entering =>
    intro a p ha
    refine ⟨(h.entering ha).1, ?_⟩
    intro t ht
    exact ((h.entering ha).2 ht).imp_right fun hr => hr.stamp e.place now
  case fresh =>
    intro a p t ha hnone ht
    have ht : (w.registry.stamp e.place now).2.lastNotified p = some t := ht
    have hne : p ≠ e.place := by
      rintro rfl
      have hi := Option.some.inj (howner.symm.trans (h.placed.entering ha).1)
      have hc := h.held hmem
      have hnone : w.registry.resolve a.identity = none := hnone
      rw [hi, Registry.contains, hnone] at hc
      cases hc
    rw [Registry.lastNotified_stamp _ (h.sound.traffic.place_lt howner), if_neg hne] at ht
    exact h.fresh ha hnone ht
  case registered => exact fun hr ht => (h.registered hr ht).stamp e.place now

/-- Every calm step keeps it. -/
theorem Tame.step (h : x.Tame loaded) (hcalm : Calm x y) : y.Tame loaded := by
  have harriving {a : Arrival} (ha : a ∈ y.traffic.arriving) : a.Informed loaded x.store := by
    rcases hcalm.looks a ha with ha | ha
    · exact h.arriving ha
    · exact h.informed ha
  have hkeeps := hcalm.keeps
  cases hcalm.step with
  | follower hx => exact h.follower hx
  | traffic hw =>
    have hsound := h.sound.step (.traffic hw)
    have hplaced := h.placed.step hw
    cases hw with
    | arrive identity target hr => exact { h with sound := hsound, placed := hplaced, arriving := harriving }
    | enter before behind hf ha => exact h.enter hf ha
    | restore he ht => exact h.restore he ht
    | install he hr => exact h.install he hr
    | remove identity hf =>
      simp only [remove_of_keeps hkeeps]
      exact h
    | removeAll hf =>
      simp only [removeAll_of_keeps h.placed.sound hkeeps]
      exact h
    | hold identity he =>
      refine { h with sound := hsound, placed := hplaced, held := fun {f} hm => ?_ }
      rcases List.mem_cons.mp hm with rfl | hm
      · have hi : f.identity = identity := h.placed.sound.identity_of_resolve he
        rw [hi, Registry.contains, he]
        rfl
      · exact h.held hm
    | stamp before behind he now => exact h.stamp he now
    | publish | announce | signal | close => exact { h with sound := hsound, placed := hplaced }

/-- Every calm run keeps it. -/
theorem Tame.runs (h : x.Tame loaded) (hruns : CalmRuns x y) : y.Tame loaded := by
  induction hruns with
  | refl => exact h
  | tail _ hcalm ih => exact ih.step hcalm

end Tame

/-- It is so at the start. -/
theorem tame_start {files : Files} {backend : Backend} {vault : Vault} (hl : Vault.load files backend = .ok vault) (ht : files.Tree)
    (hv : ∀ saved refusesLoad refusesSave, backend = .memory (some saved) refusesLoad refusesSave →
      saved.version = Snapshot.currentVersion) (capacity : Nat) : (start vault files capacity).Tame vault.store where
  sound := sound_start hl ht hv capacity
  placed := Traffic.placed_of_bus _
  unique := List.Pairwise.nil
  homes ho := by cases ho
  held hm := absurd hm List.not_mem_nil
  remembered hr := ⟨_, hr, Std.le_refl _⟩
  arriving ha := absurd ha List.not_mem_nil
  entering he := by cases he
  fresh he := by cases he
  registered he := by cases he

/-! ## The registry is asked after the signal -/

/-- Whether what is found at a place is in the store, or on its way there: the place is left to ask, or its answer left to record. -/
def Covers (x : Follower) (place : Nat) (identity : String) (t : Instant) : Prop :=
  match x.stage with
  | .asking left _ => (∃ p ∈ left, p.2.place = place) ∨ (∃ u, (identity, u) ∈ x.reported ∧ t ≤ u) ∨ x.store.Reaches identity t
  | .recording left _ => (∃ u, (identity, u) ∈ left ∧ t ≤ u) ∨ x.store.Reaches identity t
  | _ => x.store.Reaches identity t

/-- After the signal, all that is found in the registry is in the store, or on its way there. -/
structure Covered (x : Persisting) : Prop where
  signalled : x.traffic.signalled
  idle : x.traffic.held = []
  covers : ∀ {place : Nat} {identity : String} {t : Instant}, x.traffic.owners[place]? = some identity →
    x.traffic.registry.lastNotified place = some t → Covers x.follower place identity t

/-- What the store has is covered. -/
theorem covers_of_reaches {f : Follower} {place : Nat} {identity : String} {t : Instant} (h : f.store.Reaches identity t) :
    Covers f place identity t := by
  unfold Covers
  split
  · exact .inr (.inr h)
  · exact .inr h
  · exact h

section Covered

variable {loaded : Store}

/-- While events are taken it is in the store. -/
theorem Covers.reaches {f : Follower} {place : Nat} {identity : String} {t : Instant} (hs : f.stage.listens)
    (h : Covers f place identity t) : f.store.Reaches identity t := by
  unfold Covers at h
  unfold Stage.listens at hs
  split at hs
  · next hstage =>
    rw [hstage] at h
    exact h
  · next hstage =>
    rw [hstage] at h
    exact h
  · exact absurd hs Bool.false_ne_true

/-- When no answer is left to record it is in the store. -/
theorem Covers.reaches_of_recorded {f : Follower} {occasion : Occasion} {place : Nat} {identity : String} {t : Instant}
    (hs : f.stage = .recording [] occasion) (h : Covers f place identity t) : f.store.Reaches identity t := by
  rw [Covers, hs] at h
  rcases h with ⟨u, hu, _⟩ | h
  · exact absurd hu List.not_mem_nil
  · exact h

/-- What is covered stays covered while the persister takes its steps. -/
theorem Covers.step {w : Traffic} {f f' : Follower} (hf : f.Sound loaded w) (hstep : Follower.Step w f f') {place : Nat}
    {identity : String} {t : Instant} (ho : w.owners[place]? = some identity) (ht : w.registry.lastNotified place = some t)
    (h : Covers f place identity t) : Covers f' place identity t := by
  have hstore (hs : f.store.Reaches identity t) : Covers f' place identity t := covers_of_reaches (hstep.reaches hf hs)
  cases hstep with
  | @read i e left occasion hs =>
    rw [Covers, hs] at h
    rcases h with ⟨p, hp, hplace⟩ | ⟨u, hu, hle⟩ | h
    · rcases List.mem_cons.mp hp with rfl | hp
      · -- the place is asked, and tells what is found there
        have hi : i = identity := Option.some.inj (((hf.asking hs).owners List.mem_cons_self).symm.trans (hplace ▸ ho))
        refine .inr (.inl ⟨t, List.mem_append_right _ ?_, Std.le_refl t⟩)
        have hplace : e.place = place := hplace
        rw [hplace, ht, hi]
        exact List.mem_singleton_self _
      · exact .inl ⟨p, hp, hplace⟩
    · exact .inr (.inl ⟨u, List.mem_append_left _ hu, hle⟩)
    · exact .inr (.inr h)
  | collected hs =>
    rw [Covers, hs] at h
    rcases h with ⟨p, hp, _⟩ | hreported | h
    · exact absurd hp List.not_mem_nil
    · exact .inl hreported
    · exact .inr h
  | sync hs =>
    rw [Covers, hs] at h
    rcases h with ⟨u, hu, hle⟩ | h
    · rcases List.mem_cons.mp hu with hu | hu
      · obtain ⟨rfl, rfl⟩ := Prod.mk.inj hu
        exact .inr ((Store.reaches_record _ _ _).of_le hle)
      · exact .inl ⟨u, hu, hle⟩
    · exact hstore h
  | resume hs => exact hstore (h.reaches_of_recorded hs)
  | flush hs ho refusal => exact hstore (h.reaches_of_recorded hs)
  | record hs hr => exact hstore (h.reaches hs)
  | pass hs hr he => exact hstore (h.reaches hs)
  | subscribe hs | lag hs hr hl | tick hs hl | leave hs hl | skip hs hr | drained hs hr hl | advance hs | proceed hs ho | finish hs =>
    rw [Covers, hs] at h
    exact hstore h

/-- A calm step keeps everything covered. Nothing is stamped any more, and what a registration restores is in the store. -/
theorem Covered.step {x y : Persisting} (h : x.Covered) (htame : x.Tame loaded) (hcalm : Calm x y) : y.Covered := by
  have hkeeps := hcalm.keeps
  have hquiet := hcalm.quiet
  cases hcalm.step with
  | follower hx =>
    exact ⟨h.signalled, h.idle, fun ho ht => (h.covers ho ht).step htame.sound.follower hx ho ht⟩
  | @traffic w w' f hw =>
    have hsignalled : w'.signalled := hw.signalled h.signalled
    refine ⟨hsignalled, (hquiet hsignalled).1, ?_⟩
    cases hw with
    | arrive | hold | publish | announce | signal | close => exact h.covers
    | enter before behind hf ha =>
      intro place identity t ho ht
      have ht : w.registry.lastNotified place = some t := (Registry.lastNotified_allocate _ _ _).symm.trans ht
      have hp : place < w.owners.length := htame.placed.allocated ▸ Registry.lt_of_lastNotified ht
      exact h.covers (Traffic.owner_of_ownersWith ho hp) ht
    | @restore a place t he ht =>
      intro other identity u ho hu
      have howner := (htame.placed.entering he).1
      have hu : (w.registry.stamp place t).2.lastNotified other = some u := hu
      rw [Registry.lastNotified_stamp _ (htame.sound.traffic.place_lt howner)] at hu
      split at hu
      · next hp =>
        subst hp
        obtain rfl : a.identity = identity := Option.some.inj (howner.symm.trans ho)
        rcases Instant.eq_of_latest hu with hold | hnow
        · exact h.covers ho hold
        · exact covers_of_reaches ((htame.entering he).1 (ht.trans hnow))
      · exact h.covers ho hu
    | install he hr => exact h.covers
    | remove identity hf =>
      simp only [remove_of_keeps hkeeps]
      exact h.covers
    | removeAll hf =>
      simp only [removeAll_of_keeps htame.placed.sound hkeeps]
      exact h.covers
    | stamp before behind he now =>
      have hheld : w.held = [] := h.idle
      rw [hheld] at he
      simp at he

/-- Every calm run keeps everything covered. -/
theorem Covered.runs {x y : Persisting} (h : x.Covered) (htame : x.Tame loaded) (hruns : CalmRuns x y) : y.Covered := by
  induction hruns with
  | refl => exact h
  | tail hbefore hcalm ih => exact ih.step (htame.runs hbefore) hcalm

/-- Beginning to ask keeps what calm runs keep. -/
theorem Tame.ask {x : Persisting} (h : x.Tame loaded) (hidle : x.follower.flushing.progress = .idle)
    {left : List (String × Registration)} (hl : left.Perm x.traffic.registry.registered) (occasion : Occasion) :
    Tame loaded ⟨x.traffic, x.follower.ask x.traffic left occasion⟩ :=
  { h with sound := ⟨h.sound.traffic, h.sound.follower.ask h.sound.traffic hidle hl h.sound.follower.position occasion⟩ }

/-- When it is begun to ask, everything is covered: every place is left to ask, but for those that have only what the store has. -/
theorem Tame.covered_ask {x : Persisting} (h : x.Tame loaded) (hs : x.traffic.signalled) (hheld : x.traffic.held = [])
    {left : List (String × Registration)} (hl : left.Perm x.traffic.registry.registered) (occasion : Occasion) :
    Covered ⟨x.traffic, x.follower.ask x.traffic left occasion⟩ where
  signalled := hs
  idle := hheld
  covers {place identity t} ho ht := by
    have hasked {e : Registration} (he : x.traffic.registry.resolve identity = some e) (hp : e.place = place) :
        Covers (x.follower.ask x.traffic left occasion) place identity t :=
      .inl ⟨(identity, e), hl.mem_iff.mpr (Keyed.mem_of_get? he), hp⟩
    rcases h.homes ho with ⟨e, he, hp⟩ | ⟨a, ha, rfl⟩
    · exact hasked he hp
    · cases he : x.traffic.registry.resolve a.identity with
      | some e => exact hasked he ((h.placed.entering ha).2 he)
      | none => exact .inr (.inr (h.fresh ha he ht))

section Agree

variable {x : Persisting} (h : x.Tame loaded) (hfree : x.traffic.entering = none)
include h hfree

/-- What the store has of an identity that is registered is not after what is found at its place. -/
theorem Tame.reaches_of_restored {identity : String} {e : Registration} (he : x.traffic.registry.resolve identity = some e) {t : Instant}
    (ht : x.store.restored identity = some t) : x.traffic.registry.Reaches e.place t := by
  rcases h.sound.follower.accounted ht with hl | ⟨g, hg, rfl, rfl⟩
  · exact h.registered he hl
  · obtain ⟨howner, u, hu, hle⟩ := h.sound.traffic.given hg
    rcases h.homes howner with ⟨f, hf, hp⟩ | ⟨a, ha, _⟩
    · obtain rfl := Option.some.inj (he.symm.trans hf)
      exact ⟨u, hp ▸ hu, hle⟩
    · rw [hfree] at ha
      cases ha

/-- What the store has of an identity that is not registered was loaded. -/
theorem Tame.loaded_of_restored {identity : String} (he : x.traffic.registry.resolve identity = none) {t : Instant}
    (ht : x.store.restored identity = some t) : loaded.restored identity = some t := by
  rcases h.sound.follower.accounted ht with hl | ⟨g, hg, rfl, _⟩
  · exact hl
  · obtain ⟨howner, _⟩ := h.sound.traffic.given hg
    rcases h.homes howner with ⟨f, hf, _⟩ | ⟨a, ha, _⟩
    · rw [he] at hf
      cases hf
    · rw [hfree] at ha
      cases ha

/-- When all answers are recorded, the store has what the registry has, and what was loaded of the identities that are not registered. -/
theorem Covered.restored_eq (hc : x.Covered) {occasion : Occasion} (hs : x.follower.stage = .recording [] occasion) (identity : String) :
    x.store.restored identity = x.traffic.registry.lastKnown loaded.restored identity := by
  cases he : x.traffic.registry.resolve identity with
  | some e =>
    rw [Registry.lastKnown_of_resolve he]
    have hle {t : Instant} (ht : x.store.restored identity = some t) := h.reaches_of_restored hfree he ht
    have howner := (h.placed.registered (Keyed.mem_of_get? he)).2
    cases hlast : x.traffic.registry.lastNotified e.place with
    | some t =>
      obtain ⟨t', ht', hge⟩ := (hc.covers howner hlast).reaches_of_recorded hs
      obtain ⟨u, hu, hle⟩ := hle ht'
      obtain rfl := Option.some.inj (hlast.symm.trans hu)
      rw [ht', Std.le_antisymm hle hge]
    | none =>
      cases ht : x.store.restored identity with
      | none => rfl
      | some t =>
        obtain ⟨u, hu, _⟩ := hle ht
        rw [hlast] at hu
        cases hu
  | none =>
    rw [Registry.lastKnown_of_resolve_none he]
    cases hl : loaded.restored identity with
    | some t =>
      obtain ⟨t', ht', _⟩ := h.remembered hl
      rw [ht', ← hl]
      exact (h.loaded_of_restored hfree he ht').symm
    | none =>
      cases ht : x.store.restored identity with
      | none => rfl
      | some t =>
        have hl' := h.loaded_of_restored hfree he ht
        rw [hl] at hl'
        cases hl'

end Agree

end Covered

end Persisting

end Herald
