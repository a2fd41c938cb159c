import Herald.Hub
import Herald.Proofs.RegistrySound
import Mathlib.Data.List.Basic

/-!
# Service calls are all or nothing

A call is refused for the first of its targets that is unknown or, where that is enforced, lacks a field of the message; the hub is
then as it was. A call that is not refused activates each of its targets once, in the order in which it names them: `Activations`
lists everything that changes. A dispatch is the same for one target (`calls_are_all_or_nothing`).
-/

namespace Herald

namespace Target

/-- The names of the fields of a message that a target does not understand. -/
def lacking (t : Target) (m : Message) : List String :=
  (m.fields.map (·.1)).filter fun name => !t.features.names.contains name

end Target

namespace Hub

/-- Why a message to an identity is refused, if it is. -/
def refusal? (h : Hub) (m : Message) (identity : String) : Option DispatchError :=
  match h.registry.resolve identity with
  | none => some (.targetNotFound identity)
  | some e =>
    if h.enforceFeatures = true ∧ e.target.lacking m ≠ [] then
      some (.validation ("target '" ++ identity ++ "' does not support: " ++ "|".intercalate (e.target.lacking m)))
    else none

/-- Why a service call is refused, if it is: it cannot be read, or one of its targets refuses, and then the first that does counts. -/
def refusalOfCall? (h : Hub) (data : Value) : Option DispatchError :=
  match Call.ofValue data with
  | .error e => some e
  | .ok call => call.targets.findSome? (h.refusal? call.message)

/-- The activation of some registrations with one message, each stamped at its time: what changes from one hub to another, and the
tickets that are given. -/
structure Activations (m : Message) (now : Nat → Instant) (es : List Registration) (h : Hub) (tickets : List Nat) (h' : Hub) : Prop where
  /-- One ticket each, in order. -/
  ticketed : tickets = List.range' h.pool.submissions.length es.length
  /-- One send of the message each, under its ticket. -/
  submitted : h'.pool = { h.pool with submissions := h.pool.submissions ++ es.map fun e => { send := ⟨e, m⟩ } }
  /-- One event each, with the time that was stamped. -/
  published : h'.bus = { h.bus with
    published := h.bus.published ++ es.mapIdx fun i e => .activated e.identity (Instant.raised (h.registry.lastNotified e.place) (now i)) }
  /-- The stamp is the later of the time and the last activation. -/
  stamped : ∀ i e, es[i]? = some e →
    h'.registry.lastNotified e.place = some (Instant.raised (h.registry.lastNotified e.place) (now i))
  /-- No other activation changes. -/
  untouched : ∀ place, (∀ e ∈ es, e.place ≠ place) → h'.registry.lastNotified place = h.registry.lastNotified place
  registered : h'.registry.registered = h.registry.registered
  registrations : h'.registry.registrations = h.registry.registrations
  places : h'.registry.stamps.length = h.registry.stamps.length
  others : h'.enforceFeatures = h.enforceFeatures ∧ h'.inbox = h.inbox ∧ h'.handed = h.handed ∧ h'.logs = h.logs

/-! ## Refusals -/

end Hub

/-- The names of a message's fields are those of the features it needs. -/
theorem Message.names_fields (m : Message) : m.fields.map (·.1) = m.required.names := by
  obtain ⟨message, title, recipients, data⟩ := m
  cases message <;> cases title <;> cases recipients <;> cases data <;> rfl

namespace FeatureSet

/-- A feature is in a set if its name is among the names of the set. -/
theorem contains_names (s : FeatureSet) (f : Feature) : s.names.contains f.name = s.has f := by
  obtain ⟨message, title, recipients, data⟩ := s
  cases message <;> cases title <;> cases recipients <;> cases data <;> cases f <;> decide

/-- A feature is missing if it is required and not in the set. -/
theorem has_missing (s required : FeatureSet) (f : Feature) : (s.missing required).has f = (required.has f && !s.has f) := by
  cases f <;> rfl

/-- The names of the features that a set lacks. -/
theorem names_missing (s required : FeatureSet) :
    (s.missing required).names = required.names.filter fun name => !s.names.contains name := by
  simp only [names, toList, List.filter_map, List.filter_filter]
  congr 1
  refine List.filter_congr fun f _ => ?_
  have hc := contains_names s f
  simp only [names, toList] at hc
  rw [has_missing, Function.comp_apply, hc, Bool.and_comm]

/-- A set is empty if it has no names. -/
theorem isEmpty_iff_names (s : FeatureSet) : s.isEmpty = true ↔ s.names = [] := by
  rw [names, List.map_eq_nil_iff, toList, List.filter_eq_nil_iff, isEmpty, List.all_eq_true]
  simp

/-- A set that is not empty is shown by its names. -/
theorem display_of_not_isEmpty {s : FeatureSet} (h : s.isEmpty = false) : s.display = "|".intercalate s.names := by
  rw [display, h]
  rfl

end FeatureSet

/-- What a target lacks for a message are the features missing from its own. -/
theorem Target.lacking_eq (t : Target) (m : Message) : t.lacking m = (t.features.missing m.required).names := by
  rw [lacking, m.names_fields, FeatureSet.names_missing]

namespace Hub

/-- A check refuses with the reason of the refusal, and gives what the identity resolves to else. -/
theorem check_eq (h : Hub) (m : Message) (identity : String) :
    h.check m identity = match h.refusal? m identity, h.registry.resolve identity with
      | some e, _ => .error e
      | none, some registration => .ok registration
      | none, none => .error (.targetNotFound identity) := by
  rw [check, refusal?]
  cases he : h.registry.resolve identity with
  | none => rfl
  | some e =>
    simp only [e.target.lacking_eq]
    cases hm : (e.target.features.missing m.required).isEmpty with
    | true =>
      have hn := (FeatureSet.isEmpty_iff_names _).mp hm
      simp [hn]
    | false =>
      have hn : (e.target.features.missing m.required).names ≠ [] := by
        rw [Ne, ← FeatureSet.isEmpty_iff_names, hm]
        exact nofun
      cases he : h.enforceFeatures <;> simp [hn, unsupported, FeatureSet.display_of_not_isEmpty hm]

/-- A check of several targets refuses for the first that does. -/
theorem mapM_check (h : Hub) (m : Message) (targets : List String) :
    (∃ e, targets.findSome? (h.refusal? m) = some e ∧ targets.mapM (h.check m) = .error e) ∨
      (∃ es : List Registration, targets.findSome? (h.refusal? m) = none ∧ targets.mapM (h.check m) = .ok es ∧
        targets.map h.registry.resolve = es.map some) := by
  induction targets with
  | nil => exact Or.inr ⟨[], rfl, rfl, rfl⟩
  | cons identity rest ih =>
    have hc := check_eq h m identity
    cases hr : h.refusal? m identity with
    | some e =>
      rw [hr] at hc
      refine Or.inl ⟨e, by rw [List.findSome?_cons, hr], ?_⟩
      rw [List.mapM_cons, hc]
      rfl
    | none =>
      cases he : h.registry.resolve identity with
      | none =>
        rw [refusal?, he] at hr
        exact absurd hr nofun
      | some registration =>
        rw [hr, he] at hc
        rcases ih with ⟨e, hf, hm⟩ | ⟨es, hf, hm, hes⟩
        · refine Or.inl ⟨e, by rw [List.findSome?_cons, hr, hf], ?_⟩
          rw [List.mapM_cons, hc, hm]
          rfl
        · refine Or.inr ⟨registration :: es, by rw [List.findSome?_cons, hr, hf], ?_, ?_⟩
          · rw [List.mapM_cons, hc, hm]
            rfl
          · rw [List.map_cons, List.map_cons, he, hes]

/-! ## Activations -/

/-- Activating no registration changes nothing. -/
theorem activations_nil (m : Message) (now : Nat → Instant) (h : Hub) : Activations m now [] h [] h where
  ticketed := rfl
  submitted := by simp
  published := by simp
  stamped i e he := absurd (List.mem_of_getElem? he) List.not_mem_nil
  untouched _ _ := rfl
  registered := rfl
  registrations := rfl
  places := rfl
  others := ⟨rfl, rfl, rfl, rfl⟩

/-- What activating one registration changes. -/
theorem activations_activate (h : Hub) {e : Registration} (hp : e.place < h.registry.stamps.length) (now : Nat → Instant)
    (m : Message) : Activations m now [e] h [(h.activate (now 0) e m).1] (h.activate (now 0) e m).2 where
  ticketed := rfl
  submitted := rfl
  published := by
    simp only [activate, publish, Bus.publish, Registry.stamp_fst, List.mapIdx_cons, List.mapIdx_nil]
  stamped i f hf := by
    obtain ⟨hi, hfe⟩ := List.getElem?_eq_some_iff.mp hf
    have h0 : i = 0 := by simpa using hi
    subst h0
    have hef : e = f := by simpa using hfe
    subst hef
    have hr : (h.activate (now 0) e m).2.registry = (h.registry.stamp e.place (now 0)).2 := rfl
    rw [hr, Registry.lastNotified_stamp _ hp, if_pos rfl, Instant.latest_some]
  untouched place hne := by
    have hr : (h.activate (now 0) e m).2.registry = (h.registry.stamp e.place (now 0)).2 := rfl
    rw [hr, Registry.lastNotified_stamp _ hp, if_neg (hne e List.mem_cons_self).symm]
  registered := rfl
  registrations := rfl
  places := Registry.length_stamps_stamp _ _ _
  others := ⟨rfl, rfl, rfl, rfl⟩

/-- An activation of one registration and then of others with other places is one of them all. -/
theorem Activations.cons {m : Message} {now : Nat → Instant} {e : Registration} {rest : List Registration} {h h₁ h₂ : Hub}
    {ticket : Nat} {tickets : List Nat} (hne : ∀ f ∈ rest, e.place ≠ f.place) (first : Activations m now [e] h [ticket] h₁)
    (others : Activations m (fun i => now (i + 1)) rest h₁ tickets h₂) :
    Activations m now (e :: rest) h (ticket :: tickets) h₂ := by
  have hsame : ∀ f ∈ rest, h₁.registry.lastNotified f.place = h.registry.lastNotified f.place := by
    intro f hf
    refine first.untouched f.place fun g hg => ?_
    rw [List.mem_singleton.mp hg]
    exact hne f hf
  constructor
  case ticketed =>
    have ht : ticket = h.pool.submissions.length := by simpa using first.ticketed
    rw [others.ticketed, first.submitted, ht]
    simp [List.range'_succ]
  case submitted =>
    rw [others.submitted, first.submitted]
    simp
  case published =>
    have hevents : (rest.mapIdx fun i f => Event.activated f.identity (Instant.raised (h₁.registry.lastNotified f.place) (now (i + 1)))) =
        rest.mapIdx fun i f => Event.activated f.identity (Instant.raised (h.registry.lastNotified f.place) (now (i + 1))) := by
      rw [List.mapIdx_eq_mapIdx_iff]
      intro i hi
      rw [hsame _ (List.getElem_mem hi)]
    rw [others.published, hevents, first.published]
    simp [List.mapIdx_cons]
  case stamped =>
    intro i f hf
    cases i with
    | zero =>
      have hef : e = f := by simpa using hf
      subst hef
      rw [others.untouched e.place fun g hg => (hne g hg).symm]
      exact first.stamped 0 e rfl
    | succ i =>
      have hf' : rest[i]? = some f := by simpa using hf
      rw [others.stamped i f hf', hsame f (List.mem_of_getElem? hf')]
  case untouched =>
    intro place hp
    rw [others.untouched place fun f hf => hp f (List.mem_cons_of_mem e hf),
      first.untouched place fun f hf => List.mem_singleton.mp hf ▸ hp e List.mem_cons_self]
  case registered => exact others.registered.trans first.registered
  case registrations => exact others.registrations.trans first.registrations
  case places => exact others.places.trans first.places
  case others =>
    obtain ⟨h1, h2, h3, h4⟩ := others.others
    obtain ⟨g1, g2, g3, g4⟩ := first.others
    exact ⟨h1.trans g1, h2.trans g2, h3.trans g3, h4.trans g4⟩

/-- Activating registrations with places of their own, one after the other. -/
theorem activations_activateAll (m : Message) (es : List Registration) (now : Nat → Instant) (position : Nat) (h : Hub)
    (hplaced : ∀ e ∈ es, e.place < h.registry.stamps.length) (hdistinct : es.Pairwise fun a b => a.place ≠ b.place) :
    Activations m (fun i => now (position + i)) es h (activateAll m now position es h).1 (activateAll m now position es h).2 := by
  induction es generalizing position h with
  | nil => exact activations_nil m _ h
  | cons e rest ih =>
    obtain ⟨hne, hrest⟩ := List.pairwise_cons.mp hdistinct
    have hlen : (h.activate (now position) e m).2.registry.stamps.length = h.registry.stamps.length :=
      Registry.length_stamps_stamp _ _ _
    have first := activations_activate h (hplaced e List.mem_cons_self) (fun i => now (position + i)) m
    have others := ih (position + 1) (h.activate (now position) e m).2
      (fun f hf => hlen ▸ hplaced f (List.mem_cons_of_mem e hf)) hrest
    refine Activations.cons hne first ?_
    have htime : (fun i => now (position + 1 + i)) = fun i => now (position + (i + 1)) := by
      funext i
      rw [Nat.add_assoc, Nat.add_comm 1 i]
    rw [htime] at others
    exact others

/-- Activations keep a registry sound. -/
theorem Activations.sound {m : Message} {now : Nat → Instant} {es : List Registration} {h h' : Hub} {tickets : List Nat}
    (ha : Activations m now es h tickets h') (hs : h.registry.Sound) : h'.registry.Sound where
  rising := ha.registered ▸ hs.rising
  named := ha.registered ▸ hs.named
  placed := ha.registered ▸ ha.places ▸ hs.placed
  distinct := ha.registered ▸ hs.distinct

/-! ## Operations -/

namespace Operation

/-- An operation after one that gives a result runs on the hub that the first leaves. -/
theorem run_bind_ok {α β : Type} {x : Operation α} (f : α → Operation β) {h h' : Hub} {a : α} (hx : x.run h = (.ok a, h')) :
    (x >>= f).run h = (f a).run h' := by
  rw [ExceptT.run_bind]
  change StateT.bind x.run _ h = _
  unfold StateT.bind
  rw [hx]
  rfl

/-- An operation after one that is rejected is not run. -/
theorem run_bind_error {α β : Type} {x : Operation α} (f : α → Operation β) {h h' : Hub} {e : DispatchError}
    (hx : x.run h = (.error e, h')) : (x >>= f).run h = (.error e, h') := by
  rw [ExceptT.run_bind]
  change StateT.bind x.run _ h = _
  unfold StateT.bind
  rw [hx]
  rfl

/-- Reading a call leaves the hub as it is. -/
theorem run_read {data : Value} {read : Except DispatchError Call} (hc : Call.ofValue data = read) (h : Hub) :
    (ExceptT.mk (pure (Call.ofValue data)) : Operation Call).run h = (read, h) :=
  hc ▸ rfl

/-- A check leaves the hub as it is. -/
theorem run_check (m : Message) (identity : String) (h : Hub) : (check m identity).run h = (h.check m identity, h) :=
  rfl

/-- Checking targets one after the other changes nothing. -/
theorem run_mapM_check (m : Message) (targets : List String) (h : Hub) :
    (targets.mapM (check m)).run h = (targets.mapM (h.check m), h) := by
  induction targets with
  | nil => rfl
  | cons identity rest ih =>
    have hc := run_check m identity h
    rw [List.mapM_cons, List.mapM_cons]
    cases hi : h.check m identity with
    | error e =>
      rw [hi] at hc
      rw [run_bind_error _ hc]
      rfl
    | ok registration =>
      rw [hi] at hc
      rw [run_bind_ok _ hc]
      cases hr : rest.mapM (h.check m) with
      | error e =>
        rw [hr] at ih
        rw [run_bind_error _ ih]
        rfl
      | ok es =>
        rw [hr] at ih
        rw [run_bind_ok _ ih]
        rfl

end Operation

/-! ## Calls -/

/-- Removing repetitions leaves none. -/
theorem nodup_eraseDups (l : List String) : l.eraseDups.Nodup := by
  -- the rest of the list is filtered before its repetitions are removed
  induction hn : l.length using Nat.strongRecOn generalizing l with
  | ind n ih =>
    cases l with
    | nil => exact List.nodup_nil
    | cons a rest =>
      rw [List.eraseDups_cons, List.nodup_cons]
      constructor
      · rw [List.mem_eraseDups, List.mem_filter]
        simp
      · refine ih _ ?_ _ rfl
        rw [← hn, List.length_cons]
        exact Nat.lt_succ_of_le (List.length_filter_le _ _)

end Hub

/-- A call that is read has the message and the targets that were given, each target once. -/
theorem Call.ofValue_eq_ok {data : Value} {call : Call} (hc : Call.ofValue data = .ok call) :
    ∃ given, Call.readFields data = .ok (given, call.message) ∧ call.targets = given.eraseDups := by
  rw [Call.ofValue] at hc
  split at hc
  case h_1 => exact absurd hc nofun
  case h_2 given m hr =>
    split at hc
    case h_1 => exact absurd hc nofun
    case h_2 =>
      split at hc
      case h_1 => exact absurd hc nofun
      case h_2 =>
        obtain rfl := Except.ok.inj hc
        exact ⟨given, hr, rfl⟩

/-- A call that cannot be read is invalid. -/
theorem Call.ofValue_eq_error {data : Value} {e : DispatchError} (hc : Call.ofValue data = .error e) :
    ∃ reason, e = .validation reason := by
  rw [Call.ofValue] at hc
  split at hc
  case h_1 => exact ⟨_, (Except.error.inj hc).symm⟩
  case h_2 =>
    split at hc
    case h_1 => exact ⟨_, (Except.error.inj hc).symm⟩
    case h_2 =>
      split at hc
      case h_1 => exact ⟨_, (Except.error.inj hc).symm⟩
      case h_2 => exact absurd hc nofun

namespace Hub

/-- A refusal of a target is a rejection. -/
theorem isRejection_of_refusal? {h : Hub} {m : Message} {identity : String} {e : DispatchError}
    (hr : h.refusal? m identity = some e) : e.isRejection = true := by
  rw [refusal?] at hr
  split at hr
  case h_1 => exact Option.some.inj hr ▸ rfl
  case h_2 =>
    split at hr
    · exact Option.some.inj hr ▸ rfl
    · exact absurd hr nofun

/-- A refusal of a call is a rejection. -/
theorem isRejection_of_refusalOfCall? {h : Hub} {data : Value} {e : DispatchError} (hr : h.refusalOfCall? data = some e) :
    e.isRejection = true := by
  rw [refusalOfCall?] at hr
  split at hr
  case h_1 hc =>
    obtain ⟨reason, hv⟩ := Call.ofValue_eq_error hc
    rw [← Option.some.inj hr, hv]
    rfl
  case h_2 =>
    obtain ⟨identity, _, hi⟩ := List.exists_of_findSome?_eq_some hr
    exact isRejection_of_refusal? hi

/-- Different identities that resolve have places of their own. -/
theorem pairwise_places {h : Hub} (hs : h.registry.Sound) {targets : List String} (hn : targets.Nodup) {es : List Registration}
    (hes : targets.map h.registry.resolve = es.map some) : es.Pairwise fun a b => a.place ≠ b.place := by
  have hpair : (targets.map h.registry.resolve).Pairwise fun a b => ∀ e ∈ a, ∀ f ∈ b, e.place ≠ f.place := by
    rw [List.pairwise_map]
    exact hn.imp fun hne e he f hf => hs.place_ne he hf hne
  rw [hes, List.pairwise_map] at hpair
  exact hpair.imp fun hne => hne _ rfl _ rfl

/-- What identities resolve to is what one of them resolves to. -/
theorem exists_resolve {h : Hub} {targets : List String} {es : List Registration}
    (hes : targets.map h.registry.resolve = es.map some) {e : Registration} (he : e ∈ es) :
    ∃ identity, h.registry.resolve identity = some e := by
  have hmem : some e ∈ targets.map h.registry.resolve := hes ▸ List.mem_map_of_mem he
  obtain ⟨identity, _, hr⟩ := List.mem_map.mp hmem
  exact ⟨identity, hr⟩

/-- What identities resolve to has an allocated place. -/
theorem places_allocated {h : Hub} (hs : h.registry.Sound) {targets : List String} {es : List Registration}
    (hes : targets.map h.registry.resolve = es.map some) : ∀ e ∈ es, e.place < h.registry.stamps.length := by
  intro e he
  obtain ⟨identity, hr⟩ := exists_resolve hes he
  exact hs.place_lt hr

/-- A call that is refused leaves the hub as it was. -/
theorem run_callService_of_refusal {h : Hub} {now : Nat → Instant} {data : Value} {e : DispatchError}
    (hr : h.refusalOfCall? data = some e) : (Operation.callService now data).run h = (.error e, h) := by
  rw [refusalOfCall?] at hr
  cases hc : Call.ofValue data with
  | error reason =>
    rw [hc] at hr
    obtain rfl : reason = e := Option.some.inj hr
    exact Operation.run_bind_error _ (Operation.run_read hc h)
  | ok call =>
    rw [hc] at hr
    rw [Operation.callService, Operation.run_bind_ok _ (Operation.run_read hc h)]
    rcases mapM_check h call.message call.targets with ⟨f, hf, hm⟩ | ⟨es, hf, _, _⟩
    · obtain rfl : f = e := Option.some.inj (hf.symm.trans hr)
      exact Operation.run_bind_error _ (hm ▸ Operation.run_mapM_check call.message call.targets h)
    · exact absurd (hf.symm.trans hr) nofun

/-- A call that is not refused activates what its targets resolve to. -/
theorem run_callService_of_none {h : Hub} (hs : h.registry.Sound) (now : Nat → Instant) {data : Value}
    (hr : h.refusalOfCall? data = none) :
    ∃ given m es tickets h', Call.readFields data = .ok (given, m) ∧ given.eraseDups.map h.registry.resolve = es.map some ∧
      (Operation.callService now data).run h = (.ok tickets, h') ∧ Activations m now es h tickets h' := by
  rw [refusalOfCall?] at hr
  cases hc : Call.ofValue data with
  | error reason =>
    rw [hc] at hr
    exact absurd hr nofun
  | ok call =>
    rw [hc] at hr
    obtain ⟨given, hread, htargets⟩ := Call.ofValue_eq_ok hc
    rcases mapM_check h call.message call.targets with ⟨f, hf, _⟩ | ⟨es, _, hm, hes⟩
    · exact absurd (hf.symm.trans hr) nofun
    · have hnodup : call.targets.Nodup := htargets ▸ nodup_eraseDups given
      have hacts := activations_activateAll call.message es now 0 h (places_allocated hs hes) (pairwise_places hs hnodup hes)
      simp only [Nat.zero_add] at hacts
      refine ⟨given, call.message, es, _, _, hread, htargets ▸ hes, ?_, hacts⟩
      rw [Operation.callService, Operation.run_bind_ok _ (Operation.run_read hc h),
        Operation.run_bind_ok _ (hm ▸ Operation.run_mapM_check call.message call.targets h)]
      rfl

/-- A dispatch that is refused leaves the hub as it was. -/
theorem run_dispatch_of_refusal {h : Hub} {now : Instant} {identity : String} {m : Message} {e : DispatchError}
    (hr : h.refusal? m identity = some e) : (Operation.dispatch now identity m).run h = (.error e, h) := by
  have hc : h.check m identity = .error e := by
    rw [check_eq, hr]
  exact Operation.run_bind_error _ (hc ▸ Operation.run_check m identity h)

/-- A dispatch that is not refused activates what its target resolves to. -/
theorem run_dispatch_of_none {h : Hub} (hs : h.registry.Sound) (now : Nat → Instant) {identity : String} {m : Message}
    (hr : h.refusal? m identity = none) :
    ∃ e ticket h', h.registry.resolve identity = some e ∧
      (Operation.dispatch (now 0) identity m).run h = (.ok ticket, h') ∧ Activations m now [e] h [ticket] h' := by
  cases he : h.registry.resolve identity with
  | none =>
    rw [refusal?, he] at hr
    exact absurd hr nofun
  | some e =>
    have hc : h.check m identity = .ok e := by
      rw [check_eq, hr, he]
    refine ⟨e, _, _, rfl, ?_, activations_activate h (hs.place_lt he) now m⟩
    exact Operation.run_bind_ok _ (hc ▸ Operation.run_check m identity h)

/-- A dispatch that succeeds activates what its target resolves to. -/
theorem exists_of_dispatch {h h' : Hub} {now : Instant} {identity : String} {m : Message} {ticket : Nat}
    (hd : h.dispatch now identity m = .ok (ticket, h')) :
    ∃ e, h.registry.resolve identity = some e ∧ h' = (h.activate now e m).2 := by
  rw [dispatch, Operation.on] at hd
  cases hr : h.refusal? m identity with
  | some e =>
    rw [run_dispatch_of_refusal hr] at hd
    cases hd
  | none =>
    have hc := check_eq h m identity
    cases he : h.registry.resolve identity with
    | none =>
      rw [refusal?, he] at hr
      cases hr
    | some e =>
      rw [hr, he] at hc
      have hrun := Operation.run_bind_ok (fun e => ExceptT.mk fun h : Hub => (.ok (h.activate now e m).1, (h.activate now e m).2))
        (hc ▸ Operation.run_check m identity h)
      rw [Operation.dispatch, hrun] at hd
      exact ⟨e, rfl, (Prod.mk.inj (Except.ok.inj hd)).2.symm⟩

/-- A call that succeeds activates, one after the other, what its targets resolve to. -/
theorem exists_of_callService {h h' : Hub} {now : Nat → Instant} {data : Value} {tickets : List Nat}
    (hd : h.callService now data = .ok (tickets, h')) :
    ∃ m es, (∀ e ∈ es, ∃ identity, h.registry.resolve identity = some e) ∧ h' = (activateAll m now 0 es h).2 := by
  rw [callService, Operation.on] at hd
  cases hc : Call.ofValue data with
  | error reason =>
    have hrun : (Operation.callService now data).run h = (.error reason, h) :=
      Operation.run_bind_error _ (Operation.run_read hc h)
    rw [hrun] at hd
    cases hd
  | ok call =>
    rw [Operation.callService, Operation.run_bind_ok _ (Operation.run_read hc h)] at hd
    rcases mapM_check h call.message call.targets with ⟨f, _, hm⟩ | ⟨es, _, hm, hes⟩
    · rw [Operation.run_bind_error _ (hm ▸ Operation.run_mapM_check call.message call.targets h)] at hd
      cases hd
    · rw [Operation.run_bind_ok _ (hm ▸ Operation.run_mapM_check call.message call.targets h)] at hd
      exact ⟨call.message, es, fun e he => exists_resolve hes he, (Prod.mk.inj (Except.ok.inj hd)).2.symm⟩

/-- What the wait for a send ends with is no rejection. -/
theorem isRejection_of_await? {p : Pool} {limit : Option Span} {ticket : Nat} {e : DispatchError}
    (ha : p.await? limit ticket = some (.error e)) : e.isRejection = false := by
  rw [Pool.await?] at ha
  split at ha
  case h_1 result hr =>
    obtain rfl := Option.some.inj ha
    obtain ⟨s, _, hs⟩ := Option.bind_eq_some_iff.mp hr
    split at hs
    case h_1 o _ =>
      have hres : s.send.result o = .error e := Option.some.inj hs
      rw [Send.result] at hres
      split at hres
      · exact absurd hres nofun
      · exact Except.error.inj hres ▸ rfl
    case h_2 => exact absurd hs nofun
  case h_2 =>
    obtain ⟨s, _, hs⟩ := Option.bind_eq_some_iff.mp ha
    obtain ⟨span, _, he⟩ := Option.bind_eq_some_iff.mp hs
    exact Except.error.inj (Option.some.inj he) ▸ rfl

/-- An error of a send that is waited for is a rejection exactly if the dispatch was refused, and nothing has changed then. -/
theorem isRejection_of_sendAndWait {h : Hub} (hs : h.registry.Sound) {now : Instant} {identity : String} {m : Message}
    {limit : Option Span} {meanwhile : Hub → Hub} {e : DispatchError} {h' : Hub}
    (hw : h.sendAndWait now identity m limit meanwhile = (some (.error e), h')) :
    (e.isRejection = true ↔ h.refusal? m identity = some e) ∧ (e.isRejection = true → h' = h) := by
  rw [sendAndWait] at hw
  cases hr : h.refusal? m identity with
  | some f =>
    rw [run_dispatch_of_refusal hr] at hw
    obtain ⟨ha, hh⟩ := Prod.mk.inj hw
    obtain rfl : f = e := Except.error.inj (Option.some.inj ha)
    have hrej := isRejection_of_refusal? hr
    exact ⟨⟨fun _ => rfl, fun _ => hrej⟩, fun _ => hh.symm⟩
  | none =>
    obtain ⟨f, ticket, h₁, _, hrun, _⟩ := run_dispatch_of_none hs (fun _ => now) hr
    rw [hrun] at hw
    have hrej := isRejection_of_await? (Prod.mk.inj hw).1
    rw [hrej]
    exact ⟨⟨nofun, nofun⟩, nofun⟩

/-- A call, and likewise a dispatch, is refused with the hub as it was, or it activates each of its targets once and changes nothing
else. What is answered to one who waits for the send is a rejection exactly if the dispatch was refused. -/
theorem calls_are_all_or_nothing {h : Hub} (hs : h.registry.Sound) (now : Nat → Instant) :
    (∀ data, match h.refusalOfCall? data with
      | some e => (Operation.callService now data).run h = (.error e, h) ∧ e.isRejection = true
      | none => ∃ given m es tickets h', Call.readFields data = .ok (given, m) ∧
          given.eraseDups.map h.registry.resolve = es.map some ∧
          (Operation.callService now data).run h = (.ok tickets, h') ∧ Activations m now es h tickets h' ∧ h'.registry.Sound) ∧
    (∀ identity m, match h.refusal? m identity with
      | some e => (Operation.dispatch (now 0) identity m).run h = (.error e, h) ∧ e.isRejection = true
      | none => ∃ e ticket h', h.registry.resolve identity = some e ∧
          (Operation.dispatch (now 0) identity m).run h = (.ok ticket, h') ∧ Activations m now [e] h [ticket] h' ∧
          h'.registry.Sound) ∧
    (∀ identity m limit meanwhile e h', h.sendAndWait (now 0) identity m limit meanwhile = (some (.error e), h') →
      (e.isRejection = true ↔ h.refusal? m identity = some e) ∧ (e.isRejection = true → h' = h)) := by
  refine ⟨fun data => ?_, fun identity m => ?_, fun _ _ _ _ _ _ hw => isRejection_of_sendAndWait hs hw⟩
  · cases hr : h.refusalOfCall? data with
    | some e => exact ⟨run_callService_of_refusal hr, isRejection_of_refusalOfCall? hr⟩
    | none =>
      obtain ⟨given, m, es, tickets, h', hread, hes, hrun, hacts⟩ := run_callService_of_none hs now hr
      exact ⟨given, m, es, tickets, h', hread, hes, hrun, hacts, hacts.sound hs⟩
  · cases hr : h.refusal? m identity with
    | some e => exact ⟨run_dispatch_of_refusal hr, isRejection_of_refusal? hr⟩
    | none =>
      obtain ⟨e, ticket, h', he, hrun, hacts⟩ := run_dispatch_of_none hs now hr
      exact ⟨e, ticket, h', he, hrun, hacts, hacts.sound hs⟩

/-- A call that names a registered target twice activates it once. -/
theorem call_naming_twice_activates_once :
    ∃ h h' : Hub, h.registry.Sound ∧ h.registry.size = 1 ∧
      (Operation.callService (fun _ => .epoch) (.object [("target", .list [.text "a", .text "a"])])).run h = (.ok [0], h') := by
  let h : Hub := (Hub.register { bus := ⟨1, []⟩, pool := .ofWorkers 1 } none "a" { channel := .log }).1
  let data : Value := .object [("target", .list [.text "a", .text "a"])]
  have hs : h.registry.Sound := (Registry.sound_of_empty (r := {}) rfl).register none "a" { channel := .log }
  have hcall := (calls_are_all_or_nothing hs fun _ => .epoch).1 data
  have hr : h.refusalOfCall? data = none := by decide
  rw [hr] at hcall
  obtain ⟨given, m, es, tickets, h', hread, hes, hrun, hacts, _⟩ := hcall
  have hgiven : (Call.readFields data).toOption.map (·.1) = some ["a", "a"] := by decide
  rw [hread] at hgiven
  obtain rfl : given = ["a", "a"] := Option.some.inj hgiven
  have hlength : es.length = 1 := by
    rw [← List.length_map some, ← hes, List.length_map]
    decide
  have hticket : tickets = [0] := by
    rw [hacts.ticketed, hlength]
    rfl
  exact ⟨h, h', hs, rfl, hticket ▸ hrun⟩

end Hub

end Herald
