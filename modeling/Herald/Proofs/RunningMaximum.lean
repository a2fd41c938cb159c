import Herald.Proofs.Presence

/-!
# The last activation as a running maximum

While an identity stays registered, whichever registrations replace one another there, its last activation is the latest of all times that
were applied at its place: those that its registrations restored, and those that dispatches read off the clock, through whichever of its
registrations. It is absent exactly if there are none. A stamp gives the latest of what was applied up to it, so what stamps give never
decreases, though the clock may go back and what is restored may lie ahead (`Persisting.stamps_are_a_running_maximum`).

A run is told here with what its steps apply (`Traffic.Applies`), and every run can be told so (`Stay.exists_of_retains`).
-/

namespace Herald

open Relation (ReflTransGen)

/-! ## What steps apply -/

/-- A time that is applied at a place: for whom, and what a stamp gave for it; a registration that restores a time is given nothing. -/
structure Application where
  identity : String
  place : Nat
  time : Instant
  given : Option Instant

namespace Application

/-- The times that were applied at a place. -/
def times (place : Nat) (log : List Application) : List Instant :=
  (log.filter fun m => m.place = place).map (·.time)

/-- What the stamps at a place gave. -/
def answers (place : Nat) (log : List Application) : List Instant :=
  (log.filter fun m => m.place = place).filterMap (·.given)

variable {place : Nat} {log : List Application} {m : Application}

/-- What is applied at a place is the last of its times. -/
theorem times_concat (h : m.place = place) : times place (log ++ [m]) = times place log ++ [m.time] := by
  simp [times, h]

theorem answers_concat (h : m.place = place) : answers place (log ++ [m]) = answers place log ++ m.given.toList := by
  cases hg : m.given <;> simp [answers, h, hg]

/-- What is applied at another place is none of its times. -/
theorem times_concat_of_ne (h : m.place ≠ place) : times place (log ++ [m]) = times place log := by
  simp [times, h]

theorem answers_concat_of_ne (h : m.place ≠ place) : answers place (log ++ [m]) = answers place log := by
  simp [answers, h]

/-- What was applied before stays applied. -/
theorem times_subset_append (more : List Application) : times place log ⊆ times place (log ++ more) := by
  rw [times, times, List.filter_append, List.map_append]
  exact List.subset_append_left _ _

end Application

open Application (times answers)

/-- What a log tells of a place: its last activation is the latest of the times, every stamp gave the latest of those up to its own, and
what the stamps gave never decreases. -/
structure Registry.Told (r : Registry) (place : Nat) (log : List Application) : Prop where
  latest : IsLatest (times place log) (r.lastNotified place)
  gives : ∀ {before : List Application} {m : Application}, before ++ [m] <+: log → m.place = place →
    ∀ {t : Instant}, m.given = some t → IsLatest (times place (before ++ [m])) (some t)
  rising : (answers place log).Pairwise (· ≤ ·)

namespace Registry

/-- A place without an activation is told by nothing. -/
theorem told_nil {r : Registry} {place : Nat} (h : r.lastNotified place = none) : r.Told place [] where
  latest := h ▸ rfl
  gives hprefix := by simp at hprefix
  rising := .nil

/-- The same is told where the same is found. -/
theorem Told.congr {r r' : Registry} {place : Nat} {log : List Application} (h : r.Told place log)
    (hsame : r'.lastNotified place = r.lastNotified place) : r'.Told place log where
  latest := hsame ▸ h.latest
  gives := h.gives
  rising := h.rising

/-- What a stamp gave is one of the times. -/
theorem Told.mem_times {r : Registry} {place : Nat} {log : List Application} (h : r.Told place log) {t : Instant}
    (ht : t ∈ answers place log) : t ∈ times place log := by
  obtain ⟨m, hm, hgiven⟩ := List.mem_filterMap.mp ht
  obtain ⟨hm, hplace⟩ := List.mem_filter.mp hm
  obtain ⟨before, behind, rfl⟩ := List.append_of_mem hm
  rw [List.append_cons] at h ⊢
  exact Application.times_subset_append behind (h.gives (List.prefix_append _ _) (of_decide_eq_true hplace) hgiven).1

/-- A stamp is told by one more application. -/
theorem Told.stamp {r : Registry} {place : Nat} {log : List Application} (h : r.Told place log) {m : Application}
    (hp : m.place < r.stamps.length) (hgiven : ∀ {t : Instant}, m.given = some t → t = (r.stamp m.place m.time).1) :
    (r.stamp m.place m.time).2.Told place (log ++ [m]) := by
  by_cases hm : m.place = place
  · have hlatest : IsLatest (times place (log ++ [m])) ((r.stamp m.place m.time).2.lastNotified place) := by
      rw [lastNotified_stamp r hp, if_pos hm.symm, Application.times_concat hm, hm]
      exact h.latest.concat m.time
    have hgives {t : Instant} (ht : m.given = some t) : IsLatest (times place (log ++ [m])) (some t) := by
      rw [lastNotified_stamp r hp, if_pos hm.symm, Instant.latest_some, ← stamp_fst, ← hgiven ht] at hlatest
      exact hlatest
    refine ⟨hlatest, fun {before} {n} hprefix hn {t} ht => ?_, ?_⟩
    · rcases List.prefix_concat_iff.mp hprefix with hall | hprefix
      · obtain ⟨rfl, hsame⟩ := List.append_inj' hall rfl
        obtain rfl := (List.cons.inj hsame).1
        exact hgives ht
      · exact h.gives hprefix hn ht
    · rw [Application.answers_concat hm]
      refine List.pairwise_append.mpr ⟨h.rising, ?_, fun earlier hearlier t ht => ?_⟩
      · cases m.given <;> simp
      · have hmem := Application.times_subset_append [m] (h.mem_times hearlier)
        exact (hgives (Option.mem_toList.mp ht)).2 _ hmem
  · refine ⟨?_, fun {before} {n} hprefix hn {t} ht => ?_, ?_⟩
    · rw [lastNotified_stamp r hp, if_neg (Ne.symm hm), Application.times_concat_of_ne hm]
      exact h.latest
    · rcases List.prefix_concat_iff.mp hprefix with hall | hprefix
      · obtain ⟨rfl, hsame⟩ := List.append_inj' hall rfl
        exact absurd ((List.cons.inj hsame).1 ▸ hn) hm
      · exact h.gives hprefix hn ht
    · rw [Application.answers_concat_of_ne hm]
      exact h.rising

end Registry

/-! ## Steps with what they apply -/

namespace Traffic

/-- One step, with what it applies: a registration applies what it restores, and a dispatch what it reads off the clock; a step that neither
gives a stamp nor restores anything applies nothing. -/
inductive Applies (s : Store) : Option Application → Traffic → Traffic → Prop
  | restored {w : Traffic} {a : Arrival} {place : Nat} {t : Instant} (he : w.entering = some (a, place)) (ht : a.restored = some t) :
      Applies s (some ⟨a.identity, place, t, none⟩) w
        { w with registry := (w.registry.stamp place t).2, entering := some ({ a with restored := none }, place) }
  | stamped {w : Traffic} {e : Registration} (before behind : List Registration) (he : w.held = before ++ e :: behind) (now : Instant) :
      Applies s (some ⟨e.identity, e.place, now, some (w.registry.stamp e.place now).1⟩) w { w with
        registry := (w.registry.stamp e.place now).2
        held := before ++ behind
        unpublished := (e.identity, (w.registry.stamp e.place now).1) :: w.unpublished
        given := ⟨e.identity, e.place, (w.registry.stamp e.place now).1⟩ :: w.given }
  | nothing {w w' : Traffic} (hstep : Step s w w') (hgiven : w'.given = w.given)
      (hentering : ∀ {a : Arrival} {place : Nat}, w.entering = some (a, place) → a.restored ≠ none → w'.entering = w.entering) :
      Applies s none w w'

variable {s : Store} {w w' : Traffic}

/-- A step with what it applies is a step. -/
theorem Applies.step {o : Option Application} (h : Applies s o w w') : Step s w w' := by
  cases h with
  | restored he ht => exact .restore he ht
  | stamped before behind he now => exact .stamp before behind he now
  | nothing hstep => exact hstep

/-- A registration that finds its place applies nothing. -/
theorem Applies.enter {a : Arrival} (before behind : List Arrival) (hf : w.entering = none) (ha : w.arriving = before ++ a :: behind) :
    Applies s none w { w with
      registry := (w.registry.allocate a.identity).2
      arriving := before ++ behind
      entering := some (a, (w.registry.allocate a.identity).1)
      owners := w.ownersWith a.identity } :=
  .nothing (.enter before behind hf ha) rfl fun he => by cases hf.symm.trans he

/-- A registration that puts itself there applies nothing, because nothing is left to be restored. -/
theorem Applies.install {a : Arrival} {place : Nat} (he : w.entering = some (a, place)) (hr : a.restored = none) :
    Applies s none w { w with registry := w.registry.put a.identity place a.target, entering := none } := by
  refine .nothing (.install he hr) rfl fun he' hr' => ?_
  obtain ⟨rfl, -⟩ := Prod.mk.inj (Option.some.inj (he.symm.trans he'))
  exact absurd hr hr'

/-- Every step is one with what it applies. -/
theorem Step.exists_applies (h : Step s w w') : ∃ o, Applies s o w w' := by
  cases h with
  | restore he ht => exact ⟨_, .restored he ht⟩
  | stamp before behind he now => exact ⟨_, .stamped before behind he now⟩
  | enter before behind hf ha => exact ⟨_, .enter before behind hf ha⟩
  | install he hr => exact ⟨_, .install he hr⟩
  | arrive identity target hr => exact ⟨_, .nothing (.arrive identity target hr) rfl fun _ _ => rfl⟩
  | remove identity hf => exact ⟨_, .nothing (.remove identity hf) rfl fun _ _ => rfl⟩
  | removeAll hf => exact ⟨_, .nothing (.removeAll hf) rfl fun _ _ => rfl⟩
  | hold identity he => exact ⟨_, .nothing (.hold identity he) rfl fun _ _ => rfl⟩
  | publish before behind hu ho => exact ⟨_, .nothing (.publish before behind hu ho) rfl fun _ _ => rfl⟩
  | announce he ho => exact ⟨_, .nothing (.announce he ho) rfl fun _ _ => rfl⟩
  | signal => exact ⟨_, .nothing .signal rfl fun _ _ => rfl⟩
  | close => exact ⟨_, .nothing .close rfl fun _ _ => rfl⟩

/-- A step that applies nothing leaves all activations. -/
theorem Applies.lastNotified_eq (h : Applies s none w w') (place : Nat) : w'.registry.lastNotified place = w.registry.lastNotified place := by
  cases h with
  | nothing hstep hgiven hentering =>
    cases hstep with
    | restore he ht =>
      obtain ⟨hrestored, -⟩ := Prod.mk.inj (Option.some.inj ((hentering he (ht ▸ nofun)).trans he))
      rw [← hrestored] at ht
      cases ht
    | stamp before behind he now => exact absurd (congrArg List.length hgiven) (Nat.succ_ne_self _)
    | enter before behind hf ha => exact Registry.lastNotified_allocate _ _ _
    | arrive | install | remove | removeAll | hold | publish | announce | signal | close => rfl

/-- What a log tells of a place, it tells with what a step applies. -/
theorem Applies.told {o : Option Application} (h : Applies s o w w') (hw : w.Placed) {place : Nat} {log : List Application}
    (ht : w.registry.Told place log) : w'.registry.Told place (log ++ o.toList) := by
  cases h with
  | @restored _ a place t he hr =>
    have hp : place < w.registry.stamps.length := by
      rw [← hw.allocated]
      exact (List.getElem?_eq_some_iff.mp (hw.entering he).1).1
    exact ht.stamp (m := ⟨a.identity, place, t, none⟩) hp fun hg => by cases hg
  | @stamped _ e before behind he now =>
    have hp : e.place < w.registry.stamps.length := hw.held (he ▸ List.mem_append_right _ List.mem_cons_self)
    exact ht.stamp (m := ⟨e.identity, e.place, now, some (w.registry.stamp e.place now).1⟩) hp fun hg => (Option.some.inj hg).symm
  | nothing hstep hgiven hentering =>
    rw [Option.toList_none, List.append_nil]
    exact ht.congr (Applies.lastNotified_eq (.nothing hstep hgiven hentering) place)

/-! ## The place of an identity -/

/-- Whether whatever is held on to is where its identity has a place. -/
def HeldAtHome (w : Traffic) : Prop :=
  ∀ e ∈ w.held, w.owners[e.place]? = some e.identity

/-- Every step keeps it so. -/
theorem HeldAtHome.step (hh : w.HeldAtHome) (h : w.Placed) (hstep : Step s w w') : w'.HeldAtHome := by
  intro f hm
  cases hstep with
  | enter before behind hf ha => exact owners_ownersWith w _ (hh f hm)
  | @hold identity e he =>
    rcases List.mem_cons.mp hm with rfl | hm
    · obtain ⟨hi, ho⟩ := h.registered (Keyed.mem_of_get? he)
      exact ho.trans (congrArg some hi.symm)
    · exact hh f hm
  | stamp before behind he now => exact hh f (mem_of_mem_around he hm)
  | arrive | restore | install | remove | removeAll | publish | announce | signal | close => exact hh f hm

/-- Whether an identity that is registered, or on its way in for the first time, has a place. -/
structure Houses (w : Traffic) (identity : String) (place : Nat) : Prop where
  owner : w.owners[place]? = some identity
  present : w.registry.contains identity ∨ ∃ a, w.entering = some (a, place) ∧ a.identity = identity
  resolved : ∀ {e : Registration}, w.registry.resolve identity = some e → e.place = place
  entering : ∀ {a : Arrival} {p : Nat}, w.entering = some (a, p) → a.identity = identity → p = place

/-- The registration of a new identity finds a new place. -/
theorem Placed.houses (h : w.Placed) (hstep : Step s w w') {identity : String} (hnew : w.registry.contains identity = false)
    (hfree : w.entering = none) {a : Arrival} {place : Nat} (hfound : w'.entering = some (a, place)) (ha : a.identity = identity) :
    w'.Houses identity place ∧ place = w.registry.stamps.length ∧ w'.registry.lastNotified place = none := by
  have hplaced := h.step hstep
  cases hstep with
  | @enter b before behind hf hb =>
    obtain ⟨rfl, hplace⟩ := Prod.mk.inj (Option.some.inj hfound)
    subst ha
    have hnone : w.registry.resolve b.identity = none := Option.isNone_iff_eq_none.mp (by simpa [Registry.contains] using hnew)
    have hlength : place = w.registry.stamps.length := by
      rw [← hplace, Registry.allocate_of_resolve_none hnone]
    refine ⟨⟨(hplaced.entering hfound).1, .inr ⟨b, hfound, rfl⟩, fun {e} he => ?_, fun {c} {p} hc _ => ?_⟩, hlength, ?_⟩
    · rw [Registry.resolve, Registry.registered_allocate] at he
      cases hnone.symm.trans he
    · exact (Prod.mk.inj (Option.some.inj (hc.symm.trans hfound))).2
    · rw [Registry.lastNotified_allocate, Registry.lastNotified, hlength, List.getElem?_eq_none (Nat.le_refl _)]
      rfl
  | restore he ht =>
    rw [hfree] at he
    cases he
  | install he hr => cases hfound
  | arrive | remove | removeAll | hold | stamp | publish | announce | signal | close =>
    rw [hfree] at hfound
    cases hfound

/-- An identity has its place as long as it is not taken away. -/
theorem Houses.step {identity : String} {place : Nat} (hh : w.Houses identity place) (hstep : Step s w w')
    (hkept : w.registry.contains identity → w'.registry.contains identity) : w'.Houses identity place := by
  cases hstep with
  | arrive | hold | stamp | publish | announce | signal | close => exact { hh with }
  | @enter a before behind hf ha =>
    have hregistered : w.registry.contains identity := by
      rcases hh.present with hc | ⟨b, hb, -⟩
      · exact hc
      · cases hf.symm.trans hb
    refine ⟨owners_ownersWith w _ hh.owner, .inl (hkept hregistered), fun {e} he => ?_, fun {b} {p} hb hi => ?_⟩
    · rw [Registry.resolve, Registry.registered_allocate] at he
      exact hh.resolved he
    · obtain ⟨rfl, rfl⟩ := Prod.mk.inj (Option.some.inj hb)
      obtain ⟨e, he⟩ := Option.isSome_iff_exists.mp hregistered
      rw [hi, Registry.allocate_of_resolve he]
      exact hh.resolved he
  | @restore a p t he ht =>
    refine { hh with present := ?_, entering := fun {b} {q} hb hi => ?_ }
    · rcases hh.present with hc | ⟨b, hb, hi⟩
      · exact .inl hc
      · obtain ⟨rfl, rfl⟩ := Prod.mk.inj (Option.some.inj (he.symm.trans hb))
        exact .inr ⟨_, rfl, hi⟩
    · obtain ⟨rfl, rfl⟩ := Prod.mk.inj (Option.some.inj hb)
      exact hh.entering he hi
  | @install a p he hr =>
    have hresolve : (w.registry.put a.identity p a.target).resolve a.identity = some ⟨a.identity, p, w.registry.registrations, a.target⟩ :=
      Keyed.get?_insert_self _ _ _
    refine ⟨hh.owner, ?_, fun {e} he' => ?_, fun hb => by cases hb⟩
    · rcases hh.present with hc | ⟨b, hb, hi⟩
      · exact .inl (hkept hc)
      · obtain ⟨rfl, rfl⟩ := Prod.mk.inj (Option.some.inj (he.symm.trans hb))
        subst hi
        exact .inl (Option.isSome_of_eq_some hresolve)
    · by_cases hi : identity = a.identity
      · subst hi
        obtain rfl := Option.some.inj (hresolve.symm.trans he')
        exact hh.entering he rfl
      · simp only [Registry.resolve, Registry.put] at he'
        rw [Keyed.get?_insert_of_ne hi] at he'
        exact hh.resolved he'
  | remove removed hf =>
    refine { hh with present := ?_, resolved := fun {e} he => ?_ }
    · rcases hh.present with hc | ⟨b, hb, -⟩
      · exact .inl (hkept hc)
      · cases hf.symm.trans hb
    · rw [Registry.resolve_remove] at he
      split at he
      · cases he
      · exact hh.resolved he
  | removeAll hf =>
    refine { hh with present := ?_, resolved := fun {e} he => by cases he }
    rcases hh.present with hc | ⟨b, hb, -⟩
    · exact .inl (hkept hc)
    · cases hf.symm.trans hb

/-- What is applied at the place of an identity is applied for that identity. -/
theorem Applies.identity_eq {o : Option Application} (h : Applies s o w w') (hw : w.Placed) (hheld : w.HeldAtHome) {identity : String}
    {place : Nat} (hh : w.Houses identity place) {m : Application} (hm : m ∈ o) (hp : m.place = place) : m.identity = identity := by
  cases h with
  | restored he ht =>
    obtain rfl := Option.some.inj hm
    obtain rfl : _ = place := hp
    exact Option.some.inj ((hw.entering he).1.symm.trans hh.owner)
  | stamped before behind he now =>
    obtain rfl := Option.some.inj hm
    obtain rfl : _ = place := hp
    exact Option.some.inj ((hheld _ (he ▸ List.mem_append_right _ List.mem_cons_self)).symm.trans hh.owner)
  | nothing => cases hm

end Traffic

/-! ## Runs with what they apply -/

namespace Persisting

/-- One step of anybody, with what it applies. -/
inductive Applies : Option Application → Persisting → Persisting → Prop
  | traffic {o : Option Application} {w w' : Traffic} {x : Follower} (h : Traffic.Applies x.store o w w') : Applies o ⟨w, x⟩ ⟨w', x⟩
  | follower {w : Traffic} {x x' : Follower} (h : Follower.Step w x x') : Applies none ⟨w, x⟩ ⟨w, x'⟩

/-- A step with what it applies is a step. -/
theorem Applies.step {o : Option Application} {x y : Persisting} (h : Applies o x y) : Step x y := by
  cases h with
  | traffic h => exact .traffic h.step
  | follower h => exact .follower h

/-- Every step is one with what it applies. -/
theorem Step.exists_applies {x y : Persisting} (h : Step x y) : ∃ o, Applies o x y := by
  cases h with
  | traffic h =>
    obtain ⟨o, ho⟩ := h.exists_applies
    exact ⟨o, .traffic ho⟩
  | follower h => exact ⟨none, .follower h⟩

/-- A run in which an identity stays registered, from where its registration has found a new place on, and with what was applied meanwhile,
first to last. -/
inductive Stay (identity : String) (place : Nat) (x : Persisting) : List Application → Persisting → Prop
  | enter {y : Persisting} {a : Arrival} (hstep : Step x y) (hnew : x.traffic.registry.contains identity = false)
      (hfree : x.traffic.entering = none) (hfound : y.traffic.entering = some (a, place)) (ha : a.identity = identity) :
      Stay identity place x [] y
  | next {log : List Application} {o : Option Application} {y z : Persisting} (h : Stay identity place x log y) (hstep : Applies o y z)
      (hkept : y.traffic.registry.contains identity → z.traffic.registry.contains identity) : Stay identity place x (log ++ o.toList) z

/-- Any number of steps that do not take an identity away. -/
abbrev Retains (identity : String) : Persisting → Persisting → Prop :=
  ReflTransGen fun x y => Step x y ∧ (x.traffic.registry.contains identity → y.traffic.registry.contains identity)

/-- Every run that does not take the identity away can be told with what it applies. -/
theorem Stay.exists_of_retains {identity : String} {place : Nat} {x y z : Persisting} {log : List Application}
    (h : Stay identity place x log y) (hretains : Retains identity y z) : ∃ more, Stay identity place x (log ++ more) z := by
  induction hretains with
  | refl => exact ⟨[], by rwa [List.append_nil]⟩
  | tail _ hstep ih =>
    obtain ⟨more, hmore⟩ := ih
    obtain ⟨hstep, hkept⟩ := hstep
    obtain ⟨o, ho⟩ := hstep.exists_applies
    refine ⟨more ++ o.toList, ?_⟩
    rw [← List.append_assoc]
    exact hmore.next ho hkept

/-- What a run keeps in which an identity stays registered. -/
structure Settled (identity : String) (place : Nat) (log : List Application) (x : Persisting) : Prop where
  steady : x.Steady
  held : x.traffic.HeldAtHome
  houses : x.traffic.Houses identity place
  told : x.traffic.registry.Told place log
  named : ∀ {m : Application}, m ∈ log → m.place = place → m.identity = identity

/-- Every step keeps it. -/
theorem Settled.step {identity : String} {place : Nat} {log : List Application} {o : Option Application} {x y : Persisting}
    (h : x.Settled identity place log) (hstep : Applies o x y)
    (hkept : x.traffic.registry.contains identity → y.traffic.registry.contains identity) :
    y.Settled identity place (log ++ o.toList) := by
  have hsteady := h.steady.step hstep.step
  cases hstep with
  | traffic hw =>
    refine ⟨hsteady, h.held.step h.steady.placed hw.step, h.houses.step hw.step hkept, hw.told h.steady.placed h.told, ?_⟩
    intro m hm hp
    rcases List.mem_append.mp hm with hm | hm
    · exact h.named hm hp
    · exact hw.identity_eq h.steady.placed h.held h.houses (Option.mem_toList.mp hm) hp
  | follower hx =>
    rw [Option.toList_none, List.append_nil]
    exact { h with steady := hsteady }

/-- What is held on to is at home after every run. -/
theorem heldAtHome_of_runs {vault : Vault} {files : Files} {capacity : Nat} {x : Persisting} (hx : Runs (start vault files capacity) x) :
    x.traffic.HeldAtHome := by
  induction hx with
  | refl => exact fun _ hm => absurd hm List.not_mem_nil
  | tail hbefore hstep ih =>
    have hplaced := ((steady_start vault files capacity).runs hbefore).placed
    cases hstep with
    | traffic hw => exact ih.step hplaced hw
    | follower hx => exact ih

/-- Every run in which an identity stays registered keeps it. -/
theorem Stay.settled {vault : Vault} {files : Files} {capacity : Nat} {x y : Persisting} (hx : Runs (start vault files capacity) x)
    {identity : String} {place : Nat} {log : List Application} (h : Stay identity place x log y) : y.Settled identity place log := by
  induction h with
  | enter hstep hnew hfree hfound ha =>
    have hsteady := (steady_start vault files capacity).runs hx
    have hheld := heldAtHome_of_runs (hx.tail hstep)
    have hsteady' := hsteady.step hstep
    cases hstep with
    | traffic hw =>
      obtain ⟨hhouses, -, hnone⟩ := hsteady.placed.houses hw hnew hfree hfound ha
      exact ⟨hsteady', hheld, hhouses, Registry.told_nil hnone, fun hm => absurd hm List.not_mem_nil⟩
    | follower hf =>
      rw [hfree] at hfound
      cases hfound
  | next _ hstep hkept ih => exact ih.step hstep hkept

/-- Nothing was held on to before at a place that is found new. -/
theorem Stay.not_held_before {vault : Vault} {files : Files} {capacity : Nat} {x y : Persisting}
    (hx : Runs (start vault files capacity) x) {identity : String} {place : Nat} {log : List Application}
    (h : Stay identity place x log y) : ∀ e ∈ x.traffic.held, e.place ≠ place := by
  have hplaced := ((steady_start vault files capacity).runs hx).placed
  induction h with
  | enter hstep hnew hfree hfound ha =>
    cases hstep with
    | traffic hw =>
      obtain ⟨-, hplace, -⟩ := hplaced.houses hw hnew hfree hfound ha
      exact fun e he => Nat.ne_of_lt (hplace ▸ hplaced.held he)
    | follower hf =>
      rw [hfree] at hfound
      cases hfound
  | next _ _ _ ih => exact ih

/-- What an identity shows while it stays registered, whatever was done before and however it goes on: it has one place, which is a new one, so
that nothing counts that was resolved before. What its registrations restore is applied there, and what is applied there is for it. Its last
activation is the latest of the times that were applied there, and absent if there are none; every stamp gives the latest of the times up to
its own, and what stamps give never decreases. -/
theorem stamps_are_a_running_maximum (vault : Vault) (files : Files) (capacity : Nat) {x y : Persisting}
    (hx : Runs (start vault files capacity) x) {identity : String} {place : Nat} {log : List Application}
    (h : Stay identity place x log y) :
    ((∀ e ∈ x.traffic.held, e.place ≠ place) ∧
      (∀ e, y.traffic.registry.resolve identity = some e → e.place = place) ∧
      (∀ a p, y.traffic.entering = some (a, p) → (a.identity = identity ↔ p = place)) ∧
      ∀ m ∈ log, m.place = place → m.identity = identity) ∧
    (∀ e, y.traffic.registry.resolve identity = some e →
      IsLatest (times place log) (y.traffic.registry.info e).lastNotified) ∧
    (∀ before m, before ++ [m] <+: log → m.place = place → ∀ t, m.given = some t → IsLatest (times place (before ++ [m])) (some t)) ∧
    (answers place log).Pairwise (· ≤ ·) ∧
    ∀ z, Retains identity y z → ∃ more, Stay identity place x (log ++ more) z := by
  have hsettled := h.settled hx
  refine ⟨⟨h.not_held_before hx, fun e he => hsettled.houses.resolved he, fun a p he => ⟨hsettled.houses.entering he, ?_⟩,
    fun m hm hp => hsettled.named hm hp⟩, fun e he => ?_, fun before m hprefix hp t ht => hsettled.told.gives hprefix hp ht,
    hsettled.told.rising, fun z hretains => h.exists_of_retains hretains⟩
  · rintro rfl
    exact Option.some.inj ((hsettled.steady.placed.entering he).1.symm.trans hsettled.houses.owner)
  · have hshown : (y.traffic.registry.info e).lastNotified = y.traffic.registry.lastNotified place := by
      rw [Registry.info, hsettled.houses.resolved he]
    rw [hshown]
    exact hsettled.told.latest

/-- A moment with one place, before anything was stamped and before the persister has begun. -/
def unstamped (vault : Vault) (registry : Registry) (arriving : List Arrival) (entering : Option (Arrival × Nat))
    (held : List Registration) : Persisting where
  traffic := { registry, bus := .ofCapacity 1, arriving, entering, held, owners := ["a"] }
  follower := (start vault {} 1).follower

/-- A target in the log that is registered with a time that lies ahead of the clock is resolved twice, before one in the inbox takes its
place. The first stamp of the one that was replaced gives the time that was restored, the second its own, and the one in the inbox shows
it. -/
theorem replaced_registration_stamps_its_successor :
    ∃ (x y : Persisting) (log : List Application) (e : Registration) (early ahead late : Instant), early < ahead ∧ ahead < late ∧
      Runs (start ⟨⟨[("a", ahead)], false⟩, .emptyMemory⟩ {} 1) x ∧ Stay "a" 0 x log y ∧
      log = [⟨"a", 0, ahead, none⟩, ⟨"a", 0, early, some ahead⟩, ⟨"a", 0, late, some late⟩] ∧
      y.traffic.registry.resolve "a" = some e ∧ e.target.channel = .inbox ∧
      (y.traffic.registry.info e).lastNotified = some late ∧ IsLatest [ahead, early, late] (some late) := by
  let early : Instant := .epoch
  let ahead : Instant := { seconds := 5, nanos := 0 }
  let late : Instant := { seconds := 9, nanos := 0 }
  let vault : Vault := ⟨⟨[("a", ahead)], false⟩, .emptyMemory⟩
  let first : Registration := ⟨"a", 0, 0, { channel := .log }⟩
  let second : Registration := ⟨"a", 0, 1, { channel := .inbox }⟩
  let arrival : Arrival := ⟨"a", second.target, none⟩
  let x : Persisting :=
    ⟨{ (start vault {} 1).traffic with arriving := [⟨"a", first.target, some ahead⟩] }, (start vault {} 1).follower⟩
  have hx : Runs (start vault {} 1) x := .single (.traffic (.arrive "a" first.target (.inr rfl)))
  have hentered : Stay "a" 0 x [] (unstamped vault ⟨[], [none], 0⟩ [] (some (⟨"a", first.target, some ahead⟩, 0)) []) :=
    .enter (.traffic (.enter [] [] rfl rfl)) rfl rfl rfl rfl
  have hrestored : Stay "a" 0 x [⟨"a", 0, ahead, none⟩]
      (unstamped vault ⟨[], [some ahead], 0⟩ [] (some (⟨"a", first.target, none⟩, 0)) []) :=
    hentered.next (.traffic (.restored rfl rfl)) id
  have hinstalled : Stay "a" 0 x [⟨"a", 0, ahead, none⟩] (unstamped vault ⟨[("a", first)], [some ahead], 1⟩ [] none []) :=
    hrestored.next (.traffic (.install rfl rfl)) fun _ => rfl
  -- it is resolved twice
  have hresolved : Stay "a" 0 x [⟨"a", 0, ahead, none⟩] (unstamped vault ⟨[("a", first)], [some ahead], 1⟩ [] none [first]) :=
    hinstalled.next (.traffic (.nothing (.hold "a" rfl) rfl fun _ _ => rfl)) id
  have hheld : Stay "a" 0 x [⟨"a", 0, ahead, none⟩] (unstamped vault ⟨[("a", first)], [some ahead], 1⟩ [] none [first, first]) :=
    hresolved.next (.traffic (.nothing (.hold "a" rfl) rfl fun _ _ => rfl)) id
  -- another takes its place
  have harrived : Stay "a" 0 x [⟨"a", 0, ahead, none⟩]
      (unstamped vault ⟨[("a", first)], [some ahead], 1⟩ [arrival] none [first, first]) :=
    hheld.next (.traffic (.nothing (.arrive "a" second.target (.inl rfl)) rfl fun _ _ => rfl)) id
  have hsecond : Stay "a" 0 x [⟨"a", 0, ahead, none⟩]
      (unstamped vault ⟨[("a", first)], [some ahead], 1⟩ [] (some (arrival, 0)) [first, first]) :=
    harrived.next (.traffic (.enter [] [] rfl rfl)) id
  have hput : (⟨[("a", first)], [some ahead], 1⟩ : Registry).put "a" 0 second.target = ⟨[("a", second)], [some ahead], 2⟩ := by
    simp [Registry.put, Keyed.insert, second]
  have hreplaced : Stay "a" 0 x [⟨"a", 0, ahead, none⟩] (unstamped vault ⟨[("a", second)], [some ahead], 2⟩ [] none [first, first]) := by
    rw [← hput]
    exact hsecond.next (.traffic (.install rfl rfl)) fun _ => hput ▸ rfl
  have hstamped := (hreplaced.next (.traffic (.stamped [] [first] rfl early)) id).next (.traffic (.stamped [] [] rfl late)) id
  obtain ⟨-, hlatest, -⟩ := stamps_are_a_running_maximum vault {} 1 hx hstamped
  exact ⟨x, _, _, second, early, ahead, late, by decide, by decide, hx, hstamped, rfl, rfl, rfl, rfl, hlatest _ rfl⟩

end Persisting

end Herald
