import Herald.Proofs.Crowd
import Herald.Proofs.ServiceCall

/-!
# A caller who is alone

When nothing comes in between, the steps of a call are the operation of the hub: the crowd stands afterwards as the hub does, what was
released is what the operation releases, and the ticket is the one that it gives. So what holds after every run of a crowd holds after
these operations.
-/

namespace Herald.Crowd

open Relation (ReflTransGen)

/-- The registration whose target is released. -/
def Duty.released? : Duty → Option Registration
  | .release e => some e
  | .tell _ => none

/-- What the subscribers are told. -/
def Duty.told? : Duty → Option Event
  | .release _ => none
  | .tell e => some e

/-- A crowd that stands as a hub does, while somebody holds the lock or nobody does. -/
structure Shows (w : Crowd) (h : Hub) (holder : Option Nat) : Prop where
  registry : w.registry = h.registry
  workshop : w.workshop.Shows h
  enforce : w.enforce = h.enforceFeatures
  lock : w.lock = holder

variable {w : Crowd} {h : Hub} {v : Nat} {x : Visit} {request : Request} {began k : Nat} {r : Response}

/-- The call that came last. -/
theorem getElem?_called (w : Crowd) (x : Visit) : ({ w with visits := w.visits ++ [x] } : Crowd).visits[w.visits.length]? = some x :=
  List.getElem?_concat_length

/-- The call that was moved. -/
theorem getElem?_moved (hx : w.visits[v]? = some x) (x' : Visit) : (w.moved v x').visits[v]? = some x' :=
  (getElem?_set hx).mpr (.inl ⟨rfl, rfl⟩)

/-- What is told without a send is told to the subscribers of the hub. -/
theorem shows_post (hw : w.workshop.Shows h) (e : Event) : (w.workshop.post none e).Shows (h.publish e) :=
  ⟨hw.pool, congrArg (Bus.publish · e) hw.bus, hw.jobs⟩

/-! ## Writers -/

/-- A writer comes and takes the lock. -/
theorem Shows.enter (hw : w.Shows h none) (request : Request) (hwrites : request.writes = true) :
    ∃ w' v, ReflTransGen Step w w' ∧ w'.Shows h (some v) ∧ w'.teardowns = w.teardowns ∧
      w'.visits[v]? = some ⟨request, w.history.length, .locked⟩ := by
  have hx := getElem?_called w ⟨request, w.history.length, .called⟩
  exact ⟨_, w.visits.length, .head (.call request) (.single (.lock hx hwrites hw.lock)), ⟨hw.registry, hw.workshop, hw.enforce, rfl⟩,
    rfl, getElem?_moved hx _⟩

/-- A writer who has given the lock back sees to the rest. -/
theorem Shows.finish {duties : List Duty} (hw : w.Shows h none)
    (hx : w.visits[v]? = some ⟨request, began, .answered k r (.trailing duties)⟩) :
    ∃ w', ReflTransGen Step w w' ∧ w'.Shows { h with bus := h.bus.publishAll (duties.filterMap Duty.told?) } none ∧
      w'.teardowns = w.teardowns ++ (duties.filterMap Duty.released?).map h.registry.tearDown ∧
      w'.visits[v]? = some ⟨request, began, .answered k r (.returned none)⟩ := by
  induction duties generalizing w h with
  | nil =>
    refine ⟨_, .single (.leave hx), ⟨hw.registry, ⟨hw.workshop.pool, ?_, hw.workshop.jobs⟩, hw.enforce, hw.lock⟩, ?_,
      getElem?_moved hx _⟩
    · simp [Bus.publishAll, moved, hw.workshop.bus]
    · simp [moved]
  | cons duty duties ih =>
    cases duty with
    | release e =>
      have hnext : Shows ({ w with teardowns := w.teardowns ++ [w.registry.tearDown e] }.moved v
          ⟨request, began, .answered k r (.trailing duties)⟩) h none := ⟨hw.registry, hw.workshop, hw.enforce, hw.lock⟩
      obtain ⟨w', hruns, hshows, hteardowns, hx'⟩ := ih hnext (getElem?_moved hx _)
      refine ⟨w', .head (.release hx) hruns, hshows, ?_, hx'⟩
      rw [hteardowns]
      simp [moved, Duty.released?, hw.registry]
    | tell e =>
      have hnext : Shows ({ w with workshop := w.workshop.post none e }.moved v
          ⟨request, began, .answered k r (.trailing duties)⟩) (h.publish e) none :=
        ⟨hw.registry, shows_post hw.workshop e, hw.enforce, hw.lock⟩
      obtain ⟨w', hruns, hshows, hteardowns, hx'⟩ := ih hnext (getElem?_moved hx _)
      refine ⟨w', .head (.tell hx) hruns, ?_, hteardowns, hx'⟩
      simpa [Hub.publish, Bus.publish, Bus.publishAll, Duty.told?] using hshows

/-- A writer whose publication is made gives the lock back and sees to the rest. -/
theorem Shows.leave {duties : List Duty} (hw : w.Shows h (some v))
    (hx : w.visits[v]? = some ⟨request, began, .answered k r (.leaving duties)⟩) :
    ∃ w', ReflTransGen Step w w' ∧ w'.Shows { h with bus := h.bus.publishAll (duties.filterMap Duty.told?) } none ∧
      w'.teardowns = w.teardowns ++ (duties.filterMap Duty.released?).map h.registry.tearDown := by
  have hnext : Shows ({ w with lock := none }.moved v ⟨request, began, .answered k r (.trailing duties)⟩) h none :=
    ⟨hw.registry, hw.workshop, hw.enforce, rfl⟩
  obtain ⟨w', hruns, hshows, hteardowns, -⟩ := hnext.finish (getElem?_moved hx _)
  exact ⟨w', .head (.unlock hx) hruns, hshows, hteardowns⟩

/-- Registering in four steps and then publishing the copy is what `Registry.register` does. -/
theorem register_fst (r : Registry) (restored : Option Instant) (identity : String) (target : Target) :
    (r.register restored identity target).1 =
      Registry.put { ({ r with stamps := (r.allocate identity).2.stamps } : Registry).restore restored (r.allocate identity).1 with
        registered := r.registered } identity (r.allocate identity).1 target := by
  unfold Registry.register Registry.allocate
  cases r.resolve identity <;> cases restored <;> rfl

/-- Between taking the lock and giving it back a target is registered. -/
theorem Shows.install {restored : Option Instant} {identity : String} {target : Target} (hw : w.Shows h (some v))
    (hx : w.visits[v]? = some ⟨.register restored identity target, began, .locked⟩) :
    ∃ w' k r, ReflTransGen Step w w' ∧ w'.Shows { h with registry := (h.registry.register restored identity target).1 } (some v) ∧
      w'.teardowns = w.teardowns ++ (h.registry.register restored identity target).2 ∧
      w'.visits[v]? = some ⟨.register restored identity target, began, .answered k r (.leaving [.tell (.registered identity)])⟩ := by
  have hcopied x := getElem?_moved hx x
  have hvacated x y := getElem?_moved (hcopied x) y
  have hplaced x y z := getElem?_moved (hvacated x y) z
  have hrestored x y z u := getElem?_moved (hplaced x y z) u
  refine ⟨_, _, _, .head (.copy hx nofun) <| .head (.vacate (hcopied _)) <| .head (.place (hvacated _ _)) <|
    .head (.restore (hplaced _ _ _)) <| .single (.install (hrestored _ _ _ _)),
    ⟨?_, ⟨hw.workshop.pool, hw.workshop.bus, hw.workshop.jobs⟩, hw.enforce, hw.lock⟩, ?_, getElem?_moved (hrestored _ _ _ _) _⟩
  · rw [← hw.registry]
    exact (register_fst w.registry restored identity target).symm
  · rw [← hw.registry]
    rfl

/-- Registering a target. -/
theorem Shows.register (hw : w.Shows h none) (restored : Option Instant) (identity : String) (target : Target) :
    ∃ w', ReflTransGen Step w w' ∧ w'.Shows (h.register restored identity target).1 none ∧
      w'.teardowns = w.teardowns ++ (h.register restored identity target).2 := by
  obtain ⟨w₁, v, hentered, hw₁, hteardowns₁, hx₁⟩ := hw.enter (.register restored identity target) rfl
  obtain ⟨w₂, k, r, hinstalled, hw₂, hteardowns₂, hx₂⟩ := hw₁.install hx₁
  obtain ⟨w₃, hleft, hw₃, hteardowns₃⟩ := hw₂.leave hx₂
  refine ⟨w₃, hentered.trans (hinstalled.trans hleft), hw₃, ?_⟩
  rw [hteardowns₃, hteardowns₂, hteardowns₁]
  exact List.append_nil _

/-- Removing an identity. -/
theorem Shows.unregister (hw : w.Shows h none) (identity : String) :
    ∃ w', ReflTransGen Step w w' ∧ w'.Shows (h.unregister identity).1 none ∧
      w'.teardowns = w.teardowns ++ (h.unregister identity).2 := by
  obtain ⟨w₁, v, hentered, hw₁, hteardowns₁, hx₁⟩ := hw.enter (.unregister identity) rfl
  have hcopied x := getElem?_moved hx₁ x
  unfold Hub.unregister Registry.unregister
  cases he : h.registry.resolve identity with
  | none =>
    have hpassed : ∃ w₂ k r, ReflTransGen Step w₁ w₂ ∧ w₂.Shows h (some v) ∧ w₂.teardowns = w₁.teardowns ∧
        w₂.visits[v]? = some ⟨.unregister identity, w.history.length, .answered k r (.leaving [])⟩ :=
      ⟨_, _, _, .head (.copy hx₁ nofun) (.single (.passOver (hcopied _) (hw₁.registry ▸ he))),
        ⟨hw₁.registry, hw₁.workshop, hw₁.enforce, hw₁.lock⟩, rfl, getElem?_moved (hcopied _) _⟩
    obtain ⟨w₂, k, r, hpassed, hw₂, hteardowns₂, hx₂⟩ := hpassed
    obtain ⟨w₃, hleft, hw₃, hteardowns₃⟩ := hw₂.leave hx₂
    refine ⟨w₃, hentered.trans (hpassed.trans hleft), ?_, ?_⟩
    · simpa [Bus.publishAll] using hw₃
    · simp [hteardowns₃, hteardowns₂, hteardowns₁]
  | some e =>
    have hremoved : ∃ w₂ k r, ReflTransGen Step w₁ w₂ ∧ w₂.Shows { h with registry := h.registry.remove identity } (some v) ∧
        w₂.teardowns = w₁.teardowns ∧ w₂.visits[v]? =
          some ⟨.unregister identity, w.history.length, .answered k r (.leaving [.release e, .tell (.removed identity)])⟩ :=
      ⟨_, _, _, .head (.copy hx₁ nofun) (.single (.withdraw (hcopied _) (hw₁.registry ▸ he))),
        ⟨congrArg (·.remove identity) hw₁.registry, ⟨hw₁.workshop.pool, hw₁.workshop.bus, hw₁.workshop.jobs⟩, hw₁.enforce,
          hw₁.lock⟩, rfl, getElem?_moved (hcopied _) _⟩
    obtain ⟨w₂, k, r, hremoved, hw₂, hteardowns₂, hx₂⟩ := hremoved
    obtain ⟨w₃, hleft, hw₃, hteardowns₃⟩ := hw₂.leave hx₂
    refine ⟨w₃, hentered.trans (hremoved.trans hleft), hw₃, ?_⟩
    rw [hteardowns₃, hteardowns₂, hteardowns₁]
    rfl

/-- What there is to do after every identity was removed. -/
theorem duties_of_clear (es : List Registration) :
    (es.flatMap fun e => [Duty.release e, .tell (.removed e.identity)]).filterMap Duty.released? = es ∧
      (es.flatMap fun e => [Duty.release e, .tell (.removed e.identity)]).filterMap Duty.told? = es.map fun e => .removed e.identity := by
  induction es with
  | nil => exact ⟨rfl, rfl⟩
  | cons e es ih => simpa [List.filterMap_cons, Duty.released?, Duty.told?] using ih

/-- Removing every identity. -/
theorem Shows.clear (hw : w.Shows h none) :
    ∃ w', ReflTransGen Step w w' ∧ w'.Shows h.clear.1 none ∧ w'.teardowns = w.teardowns ++ h.clear.2 := by
  obtain ⟨w₁, v, hentered, hw₁, hteardowns₁, hx₁⟩ := hw.enter .clear rfl
  have hremoved : ∃ w₂ k r, ReflTransGen Step w₁ w₂ ∧ w₂.Shows { h with registry := h.registry.removeAll } (some v) ∧
      w₂.teardowns = w₁.teardowns ∧ w₂.visits[v]? = some ⟨.clear, w.history.length,
        .answered k r (.leaving (h.registry.discovered.flatMap fun e => [.release e, .tell (.removed e.identity)]))⟩ := by
    rw [← hw₁.registry]
    exact ⟨_, _, _, .single (.withdrawAll hx₁),
      ⟨rfl, ⟨hw₁.workshop.pool, hw₁.workshop.bus, hw₁.workshop.jobs⟩, hw₁.enforce, hw₁.lock⟩, rfl, getElem?_moved hx₁ _⟩
  obtain ⟨w₂, k, r, hremoved, hw₂, hteardowns₂, hx₂⟩ := hremoved
  obtain ⟨w₃, hleft, hw₃, hteardowns₃⟩ := hw₂.leave hx₂
  obtain ⟨hreleased, htold⟩ := duties_of_clear h.registry.discovered
  rw [hreleased, hteardowns₂, hteardowns₁] at hteardowns₃
  rw [htold] at hw₃
  refine ⟨w₃, hentered.trans (hremoved.trans hleft), ?_, hteardowns₃⟩
  simpa [Hub.clear, Registry.clear, Registry.tearDown, Function.comp_def] using hw₃

/-! ## Dispatches -/

/-- A dispatch, whether it is accepted or rejected. -/
theorem Shows.dispatch (hw : w.Shows h none) (now : Instant) (identity : String) (m : Message) :
    ∃ (w' : Crowd) (v : Nat) (r : Response) (ticket : Option Nat), ReflTransGen Step w w' ∧ w'.teardowns = w.teardowns ∧
      w'.visits[v]? = some ⟨.dispatch identity m, w.history.length, .answered w.history.length r (.returned ticket)⟩ ∧
      match h.dispatch now identity m with
      | .ok (t, h') => w'.Shows h' none ∧ ticket = some t ∧ r.isAccepted = true
      | .error e => w'.Shows h none ∧ ticket = none ∧ r = .rejected e := by
  have hx := getElem?_called w ⟨.dispatch identity m, w.history.length, .called⟩
  have hchecked : w.hub.check m identity = h.check m identity := by
    unfold Hub.check hub
    rw [hw.registry, hw.enforce]
  unfold Hub.dispatch Hub.Operation.on Hub.Operation.dispatch
  cases hc : h.check m identity with
  | error e =>
    rw [Hub.Operation.run_bind_error _ (hc ▸ Hub.Operation.run_check m identity h)]
    rw [hc] at hchecked
    exact ⟨_, _, _, _, .head (.call (.dispatch identity m)) <| .head (.reject hx hchecked) <| .single (.leave (getElem?_moved hx _)),
      rfl, getElem?_moved (getElem?_moved hx _) _, ⟨hw.registry, hw.workshop, hw.enforce, hw.lock⟩, rfl, rfl⟩
  | ok e =>
    rw [Hub.Operation.run_bind_ok _ (hc ▸ Hub.Operation.run_check m identity h)]
    rw [hc] at hchecked
    have hresolved x := getElem?_moved hx x
    have hstamped x y := getElem?_moved (hresolved x) y
    have hannounced x y z := getElem?_moved (hstamped x y) z
    have hsubmitted x y z u := getElem?_moved (hannounced x y z) u
    refine ⟨_, _, _, _, .head (.call (.dispatch identity m)) <| .head (.resolve hx hchecked) <| .head (.stamp now (hresolved _)) <|
      .head (.announce (hstamped _ _)) <| .head (.submit (hannounced _ _ _)) <| .single (.leaveSubmitted (hsubmitted _ _ _ _)),
      rfl, getElem?_moved (hsubmitted _ _ _ _) _, ⟨?_, ⟨?_, ?_, ?_⟩, hw.enforce, hw.lock⟩, ?_, rfl⟩
    · exact congrArg (fun r => (r.stamp e.place now).2) hw.registry
    · exact congrArg (fun p => (p.submit ⟨e, m⟩).2) hw.workshop.pool
    · simp only [moved, Workshop.submit, Workshop.post, hw.registry, hw.workshop.bus]
      rfl
    · simp [moved, Workshop.submit, Workshop.post, Hub.publish, Pool.submit, Submission.job, hw.workshop.jobs]
    · exact congrArg (fun p => some (p.submit ⟨e, m⟩).1) hw.workshop.pool

end Herald.Crowd
