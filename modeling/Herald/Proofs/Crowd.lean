import Herald.Proofs.Publications
import Herald.Proofs.Workers

/-!
# A crowd of callers

Any number of callers at one registry, in steps as small as anyone can tell apart. A writer takes the lock, copies the map, releases the
target that it replaces, finds the place, restores what was saved, and publishes the changed copy; it gives the lock back before it
sees to the rest. Lookups and dispatches read the map as it is published and take no lock. The steps of all callers, and of the workers,
come in any order.

Every call takes effect at one moment, told by how many publications there were before: a writer when it publishes, anyone else
when it reads. What a sound crowd keeps (`Crowd.Sound`) is that the map is what the publications say, that each publication is the effect
of one call, that only the holder of the lock has a copy, and that the sends are those of the dispatches.
-/

namespace Herald

open Relation

namespace Crowd

/-- What a caller asks for. -/
inductive Request
  | register (restored : Option Instant) (identity : String) (target : Target)
  | unregister (identity : String)
  | clear
  /-- Any lookup: what it gives depends on the map that it reads. -/
  | look
  | dispatch (identity : String) (m : Message)

/-- What a call does or is told at the moment it takes effect. -/
inductive Response
  | published (p : Publication)
  /-- An identity that was to be removed is not there. -/
  | passedOver
  | seen (map : Keyed Registration)
  | accepted (e : Registration)
  | rejected (e : DispatchError)

/-- What a writer sees to when it has given the lock back. -/
inductive Duty
  | release (e : Registration)
  | tell (e : Event)

/-- What is left of a call after it took effect. -/
inductive Errand
  /-- The lock is still held. -/
  | leaving (duties : List Duty)
  | trailing (duties : List Duty)
  | resolved
  | stamped (at' : Instant)
  | announced
  | submitted (ticket : Nat)
  | returned (ticket : Option Nat)

/-- How far a call has come. -/
inductive Stage
  | called
  | locked
  | copied (copy : Keyed Registration)
  /-- The target that is replaced was released. -/
  | vacated (copy : Keyed Registration)
  | placed (copy : Keyed Registration) (place : Nat)
  | restored (copy : Keyed Registration) (place : Nat)
  /-- The call has taken effect, after so many publications. -/
  | answered (moment : Nat) (response : Response) (errand : Errand)

/-- A call: what is asked for, how many publications there were when it began, and how far it has come. -/
structure Visit where
  request : Request
  began : Nat
  stage : Stage

/-- Whether a call takes the lock. -/
def Request.writes : Request → Bool
  | .look => false
  | .dispatch _ _ => false
  | _ => true

/-- Whether a dispatch was accepted. -/
def Response.isAccepted : Response → Bool
  | .accepted _ => true
  | _ => false

/-- Whether an errand is that of an accepted dispatch. -/
def Errand.activates : Errand → Bool
  | .leaving _ => false
  | .trailing _ => false
  | .returned ticket => ticket.isSome
  | _ => true

/-- The ticket that was given, once it was. -/
def Errand.ticket? : Errand → Option Nat
  | .submitted ticket => some ticket
  | .returned ticket => ticket
  | _ => none

namespace Stage

/-- Whether a call at this stage holds the lock. -/
def holds : Stage → Bool
  | .called => false
  | .answered _ _ (.leaving _) => true
  | .answered _ _ _ => false
  | _ => true

/-- Whether a call at this stage has taken effect. -/
def isAnswered : Stage → Bool
  | .answered _ _ _ => true
  | _ => false

/-- The copy of the map that a call at this stage works on. -/
def copy? : Stage → Option (Keyed Registration)
  | .copied copy => some copy
  | .vacated copy => some copy
  | .placed copy _ => some copy
  | .restored copy _ => some copy
  | _ => none

/-- The publication that a call at this stage has made, with its moment. -/
def publication? : Stage → Option (Nat × Publication)
  | .answered moment (.published p) _ => some (moment, p)
  | _ => none

/-- The ticket of a call at this stage. -/
def ticket? : Stage → Option Nat
  | .answered _ _ errand => errand.ticket?
  | _ => none

end Stage

end Crowd

/-- A registry with the workers that send for it, who holds the lock, all calls by their numbers, what was published by which call, what
was released, and which call each ticket was given to. -/
structure Crowd where
  registry : Registry := {}
  workshop : Workshop
  /-- Whether a message with fields that its target does not support is rejected. -/
  enforce : Bool := false
  lock : Option Nat := none
  visits : List Crowd.Visit := []
  history : List (Nat × Publication) := []
  teardowns : List Teardown := []
  owners : List Nat := []

/-- The registry with the activation that was saved for a place. -/
def Registry.restore (r : Registry) (restored : Option Instant) (place : Nat) : Registry :=
  match restored with
  | some t => (r.stamp place t).2
  | none => r

namespace Crowd

/-- A registry without targets, so many workers, and nobody there. -/
def opened (n : Nat) (b : Bus) (enforce : Bool) : Crowd where
  workshop := .opened n b
  enforce

/-- The hub that a dispatch finds. -/
def hub (w : Crowd) : Hub where
  registry := w.registry
  bus := w.workshop.bus
  pool := w.workshop.pool
  enforceFeatures := w.enforce

/-- What was published. -/
def published (w : Crowd) : List Publication :=
  w.history.map (·.2)

/-- The map after so many publications. -/
def mapAt (w : Crowd) (moment : Nat) : Keyed Registration :=
  mapAfter (w.published.take moment)

/-- The registry as a writer sees it who has a copy of the map. -/
def reading (w : Crowd) (copy : Keyed Registration) : Registry :=
  { w.registry with registered := copy }

/-- The crowd with a call at another stage. -/
def moved (w : Crowd) (v : Nat) (x : Visit) : Crowd :=
  { w with visits := w.visits.set v x }

/-- The crowd after a call has published something, and the registry that comes of it. -/
def publish (w : Crowd) (v : Nat) (request : Request) (began : Nat) (p : Publication) (registry : Registry) (duties : List Duty) : Crowd :=
  { w with registry, history := w.history ++ [(v, p)] }.moved v
    ⟨request, began, .answered w.history.length (.published p) (.leaving duties)⟩

/-- What some caller or some worker does next. -/
inductive Step (w : Crowd) : Crowd → Prop
  | call (request : Request) : Step w { w with visits := w.visits ++ [⟨request, w.history.length, .called⟩] }
  | lock {v request began} (hx : w.visits[v]? = some ⟨request, began, .called⟩) (hw : request.writes = true) (hfree : w.lock = none) :
    Step w ({ w with lock := some v }.moved v ⟨request, began, .locked⟩)
  | copy {v request began} (hx : w.visits[v]? = some ⟨request, began, .locked⟩) (hc : request ≠ .clear) :
    Step w (w.moved v ⟨request, began, .copied w.registry.registered⟩)
  /-- The target that is replaced is released, if there is one. -/
  | vacate {v restored identity target began} {copy : Keyed Registration}
    (hx : w.visits[v]? = some ⟨.register restored identity target, began, .copied copy⟩) :
    Step w ({ w with teardowns := w.teardowns ++ (copy.get? identity).toList.map w.registry.tearDown }.moved v
      ⟨.register restored identity target, began, .vacated copy⟩)
  | place {v restored identity target began copy}
    (hx : w.visits[v]? = some ⟨.register restored identity target, began, .vacated copy⟩) :
    Step w ({ w with registry := { w.registry with stamps := ((w.reading copy).allocate identity).2.stamps } }.moved v
      ⟨.register restored identity target, began, .placed copy ((w.reading copy).allocate identity).1⟩)
  | restore {v restored identity target began copy place}
    (hx : w.visits[v]? = some ⟨.register restored identity target, began, .placed copy place⟩) :
    Step w ({ w with registry := w.registry.restore restored place }.moved v
      ⟨.register restored identity target, began, .restored copy place⟩)
  | install {v restored identity target began copy place}
    (hx : w.visits[v]? = some ⟨.register restored identity target, began, .restored copy place⟩) :
    Step w (w.publish v (.register restored identity target) began (.installed ⟨identity, place, w.registry.registrations, target⟩)
      ((w.reading copy).put identity place target) [.tell (.registered identity)])
  | withdraw {v identity began e} {copy : Keyed Registration} (hx : w.visits[v]? = some ⟨.unregister identity, began, .copied copy⟩)
    (he : copy.get? identity = some e) :
    Step w (w.publish v (.unregister identity) began (.removed identity) ((w.reading copy).remove identity)
      [.release e, .tell (.removed identity)])
  | passOver {v identity began} {copy : Keyed Registration} (hx : w.visits[v]? = some ⟨.unregister identity, began, .copied copy⟩)
    (he : copy.get? identity = none) :
    Step w (w.moved v ⟨.unregister identity, began, .answered w.history.length .passedOver (.leaving [])⟩)
  | withdrawAll {v began} (hx : w.visits[v]? = some ⟨.clear, began, .locked⟩) :
    Step w (w.publish v .clear began .cleared w.registry.removeAll
      (w.registry.discovered.flatMap fun e => [.release e, .tell (.removed e.identity)]))
  | unlock {v request began k r duties} (hx : w.visits[v]? = some ⟨request, began, .answered k r (.leaving duties)⟩) :
    Step w ({ w with lock := none }.moved v ⟨request, began, .answered k r (.trailing duties)⟩)
  | release {v request began k r e duties} (hx : w.visits[v]? = some ⟨request, began, .answered k r (.trailing (.release e :: duties))⟩) :
    Step w ({ w with teardowns := w.teardowns ++ [w.registry.tearDown e] }.moved v
      ⟨request, began, .answered k r (.trailing duties)⟩)
  | tell {v request began k r e duties} (hx : w.visits[v]? = some ⟨request, began, .answered k r (.trailing (.tell e :: duties))⟩) :
    Step w ({ w with workshop := w.workshop.post none e }.moved v ⟨request, began, .answered k r (.trailing duties)⟩)
  | look {v began} (hx : w.visits[v]? = some ⟨.look, began, .called⟩) :
    Step w (w.moved v ⟨.look, began, .answered w.history.length (.seen w.registry.registered) (.trailing [])⟩)
  | resolve {v identity m began e} (hx : w.visits[v]? = some ⟨.dispatch identity m, began, .called⟩)
    (hc : w.hub.check m identity = .ok e) :
    Step w (w.moved v ⟨.dispatch identity m, began, .answered w.history.length (.accepted e) .resolved⟩)
  | reject {v identity m began e} (hx : w.visits[v]? = some ⟨.dispatch identity m, began, .called⟩)
    (hc : w.hub.check m identity = .error e) :
    Step w (w.moved v ⟨.dispatch identity m, began, .answered w.history.length (.rejected e) (.trailing [])⟩)
  | stamp {v identity m began k} {e : Registration} (now : Instant)
    (hx : w.visits[v]? = some ⟨.dispatch identity m, began, .answered k (.accepted e) .resolved⟩) :
    Step w ({ w with registry := (w.registry.stamp e.place now).2 }.moved v
      ⟨.dispatch identity m, began, .answered k (.accepted e) (.stamped (w.registry.stamp e.place now).1)⟩)
  | announce {v identity m began k t} {e : Registration}
    (hx : w.visits[v]? = some ⟨.dispatch identity m, began, .answered k (.accepted e) (.stamped t)⟩) :
    Step w ({ w with workshop := w.workshop.post none (.activated e.identity t) }.moved v
      ⟨.dispatch identity m, began, .answered k (.accepted e) .announced⟩)
  | submit {v identity m began k e} (hx : w.visits[v]? = some ⟨.dispatch identity m, began, .answered k (.accepted e) .announced⟩) :
    Step w ({ w with workshop := w.workshop.submit ⟨e, m⟩, owners := w.owners ++ [v] }.moved v
      ⟨.dispatch identity m, began, .answered k (.accepted e) (.submitted (w.workshop.pool.submit ⟨e, m⟩).1)⟩)
  | leave {v request began k r} (hx : w.visits[v]? = some ⟨request, began, .answered k r (.trailing [])⟩) :
    Step w (w.moved v ⟨request, began, .answered k r (.returned none)⟩)
  | leaveSubmitted {v request began k r t} (hx : w.visits[v]? = some ⟨request, began, .answered k r (.submitted t)⟩) :
    Step w (w.moved v ⟨request, began, .answered k r (.returned (some t))⟩)
  /-- The workers go on with what was submitted. -/
  | work {workshop} (h : w.workshop.Step workshop) (hsame : workshop.submitted = w.workshop.submitted) : Step w { w with workshop }

/-! ## What a sound crowd keeps -/

/-- What a call is answered that reads a map. -/
inductive Answers (enforce : Bool) (map : Keyed Registration) : Request → Response → Prop
  | installed (restored : Option Instant) (e : Registration) :
    Answers enforce map (.register restored e.identity e.target) (.published (.installed e))
  | removed {identity : String} {e : Registration} (h : map.get? identity = some e) :
    Answers enforce map (.unregister identity) (.published (.removed identity))
  | passedOver {identity : String} (h : map.get? identity = none) : Answers enforce map (.unregister identity) .passedOver
  | cleared : Answers enforce map .clear (.published .cleared)
  | seen : Answers enforce map .look (.seen map)
  | accepted {identity : String} {m : Message} {e : Registration} (h : map.get? identity = some e)
    (hf : enforce = true → (e.target.features.missing m.required).isEmpty = true) :
    Answers enforce map (.dispatch identity m) (.accepted e)
  | unknown {identity : String} {m : Message} (h : map.get? identity = none) :
    Answers enforce map (.dispatch identity m) (.rejected (.targetNotFound identity))
  | unsupported {identity : String} {m : Message} {e : Registration} (h : map.get? identity = some e) (henforce : enforce = true)
    (hf : (e.target.features.missing m.required).isEmpty = false) :
    Answers enforce map (.dispatch identity m)
      (.rejected (.validation (Hub.unsupported identity (e.target.features.missing m.required))))

/-- A call that took effect: at a moment since it began, with the answer of the map at that moment, as its own publication if it made one;
and if it has a ticket, it is a dispatch and its message was submitted for the target that accepted it. -/
structure Effective (w : Crowd) (v : Nat) (request : Request) (began k : Nat) (r : Response) (errand : Errand) : Prop where
  after : began ≤ k
  before : k ≤ w.history.length
  answers : Answers w.enforce (w.mapAt k) request r
  published : ∀ p, r = .published p → w.history[k]? = some (v, p)
  fits : errand.activates = r.isAccepted
  delivers : ∀ t, errand.ticket? = some t →
    ∃ identity m e, request = .dispatch identity m ∧ r = .accepted e ∧ w.workshop.submitted[t]? = some ⟨e, m⟩

/-- A call that has the lock if its stage says so, a copy of the map only as it is, and is effective once it took effect. -/
structure Fair (w : Crowd) (v : Nat) (x : Visit) : Prop where
  began_le : x.began ≤ w.history.length
  holds : x.stage.holds = true ↔ w.lock = some v
  copy : ∀ c, x.stage.copy? = some c → c = w.registry.registered
  effective : ∀ k r errand, x.stage = .answered k r errand → w.Effective v x.request x.began k r errand

/-- How many registrations were installed. -/
def installs (history : List (Nat × Publication)) : Nat :=
  history.countP fun p => p.2.left?.isSome

/-- A crowd in which the map is what was published, each publication is that of one call, registrations are numbered in the order of their
installing, every call is fair, and the sends are those of the calls that have a ticket. -/
structure Sound (n : Nat) (b : Bus) (w : Crowd) : Prop where
  workshop : w.workshop.Sound n b
  map : w.registry.registered = mapAfter w.published
  counted : w.registry.registrations = installs w.history
  numbered : ∀ k v e, w.history[k]? = some (v, .installed e) → e.serial = installs (w.history.take k)
  fair : ∀ v x, w.visits[v]? = some x → w.Fair v x
  locked : ∀ v, w.lock = some v → v < w.visits.length
  authors : ∀ k v p, w.history[k]? = some (v, p) → ∃ x : Visit, w.visits[v]? = some x ∧ x.stage.publication? = some (k, p)
  owned : w.owners.length = w.workshop.submitted.length
  owners : ∀ t v, w.owners[t]? = some v ↔ ∃ x : Visit, w.visits[v]? = some x ∧ x.stage.ticket? = some t

variable {n : Nat} {b : Bus} {w w' : Crowd} {v : Nat} {x x' : Visit}

/-! ## What other callers do not see -/

/-- What only grows, and what never changes. -/
structure Grown (w w' : Crowd) : Prop where
  enforce : w'.enforce = w.enforce
  history : w.history <+: w'.history
  submitted : w.workshop.submitted <+: w'.workshop.submitted

theorem Grown.mapAt_eq (h : w.Grown w') {k : Nat} (hk : k ≤ w.history.length) : w'.mapAt k = w.mapAt k := by
  obtain ⟨more, hmore⟩ := h.history
  have hpublished : w'.published = w.published ++ more.map (·.2) := by rw [published, ← hmore, List.map_append, published]
  rw [mapAt, mapAt, hpublished, List.take_append_of_le_length (by rwa [published, List.length_map])]

/-- What is listed stays listed when a list grows. -/
theorem getElem?_of_prefix {α : Type} {l l' : List α} (h : l <+: l') {i : Nat} {a : α} (ha : l[i]? = some a) : l'[i]? = some a := by
  obtain ⟨more, rfl⟩ := h
  rw [List.getElem?_append_left (List.getElem?_eq_some_iff.mp ha).1, ha]

/-- What took effect stays as it was. -/
theorem Effective.grown {request : Request} {began k : Nat} {r : Response} {errand : Errand}
    (h : w.Effective v request began k r errand) (hg : w.Grown w') : w'.Effective v request began k r errand where
  after := h.after
  before := Nat.le_trans h.before hg.history.length_le
  answers := by
    rw [hg.enforce, hg.mapAt_eq h.before]
    exact h.answers
  published p hp := getElem?_of_prefix hg.history (h.published p hp)
  fits := h.fits
  delivers t ht := by
    obtain ⟨identity, m, e, hrequest, hr, hs⟩ := h.delivers t ht
    exact ⟨identity, m, e, hrequest, hr, getElem?_of_prefix hg.submitted hs⟩

/-- Who has a copy holds the lock. -/
theorem Stage.holds_of_copy? {stage : Stage} {c : Keyed Registration} (h : stage.copy? = some c) : stage.holds = true := by
  cases stage <;> first | rfl | cases h

/-- A call stays fair if the lock and what is published do not change under it. -/
theorem Fair.grown (h : w.Fair v x) (hg : w.Grown w') (hlock : w'.lock = some v ↔ w.lock = some v)
    (hcopy : w.lock = some v → w'.registry.registered = w.registry.registered) : w'.Fair v x where
  began_le := Nat.le_trans h.began_le hg.history.length_le
  holds := h.holds.trans hlock.symm
  copy c hc := by
    rw [hcopy (h.holds.mp (Stage.holds_of_copy? hc))]
    exact h.copy c hc
  effective k r errand hs := (h.effective k r errand hs).grown hg

/-- The calls when one of them is at another stage. -/
theorem getElem?_set {visits : List Visit} (hx : visits[v]? = some x) {u : Nat} {y : Visit} :
    (visits.set v x')[u]? = some y ↔ u = v ∧ y = x' ∨ u ≠ v ∧ visits[u]? = some y := by
  have hlt := (List.getElem?_eq_some_iff.mp hx).1
  by_cases hu : u = v
  · subst hu
    rw [List.getElem?_set_self hlt]
    simp [eq_comm]
  · rw [List.getElem?_set_ne (Ne.symm hu)]
    simp [hu]

/-- What a step of one call changes that others can see: nothing but that it takes the lock or gives it back. -/
structure Quiet (w w' : Crowd) (v : Nat) : Prop where
  enforce : w'.enforce = w.enforce
  history : w'.history = w.history
  registered : w'.registry.registered = w.registry.registered
  registrations : w'.registry.registrations = w.registry.registrations
  submitted : w'.workshop.submitted = w.workshop.submitted
  owners : w'.owners = w.owners
  lock : ∀ u, u ≠ v → (w'.lock = some u ↔ w.lock = some u)

theorem Quiet.grown (h : w.Quiet w' v) : w.Grown w' where
  enforce := h.enforce
  history := h.history ▸ List.prefix_refl _
  submitted := h.submitted ▸ List.prefix_refl _

/-- A call that keeps its ticket leaves the tickets as they are. -/
theorem Sound.owners_set (h : w.Sound n b) (hx : w.visits[v]? = some x) (x' : Visit) (hticket : x'.stage.ticket? = x.stage.ticket?)
    (t u : Nat) :
    w.owners[t]? = some u ↔ ∃ y : Visit, (w.visits.set v x')[u]? = some y ∧ y.stage.ticket? = some t := by
  rw [h.owners]
  simp only [getElem?_set hx]
  by_cases huv : u = v
  · subst huv
    simp [hx, hticket]
  · simp [huv]

/-- A step of one call that others do not see keeps the crowd sound, if the call stays fair and keeps its publication and its ticket. -/
theorem Sound.quiet (h : w.Sound n b) (hx : w.visits[v]? = some x) (hvisits : w'.visits = w.visits.set v x') (hq : w.Quiet w' v)
    (hw : w'.workshop.Sound n b) (hfair : w'.Fair v x') (hpublication : x'.stage.publication? = x.stage.publication?)
    (hticket : x'.stage.ticket? = x.stage.ticket?) : w'.Sound n b where
  workshop := hw
  map := by rw [hq.registered, published, hq.history, h.map, published]
  counted := by rw [hq.registrations, hq.history, h.counted]
  numbered := by
    rw [hq.history]
    exact h.numbered
  fair u y hy := by
    rw [hvisits, getElem?_set hx] at hy
    rcases hy with ⟨rfl, rfl⟩ | ⟨hu, hy⟩
    · exact hfair
    · exact (h.fair u y hy).grown hq.grown (hq.lock u hu) fun _ => hq.registered
  locked u hu := by
    rw [hvisits, List.length_set]
    by_cases huv : u = v
    · exact huv ▸ (List.getElem?_eq_some_iff.mp hx).1
    · exact h.locked u ((hq.lock u huv).mp hu)
  authors k u p hk := by
    rw [hq.history] at hk
    obtain ⟨y, hy, hp⟩ := h.authors k u p hk
    by_cases huv : u = v
    · subst huv
      obtain rfl := Option.some.inj (hx.symm.trans hy)
      exact ⟨x', by rw [hvisits, getElem?_set hx]; exact .inl ⟨rfl, rfl⟩, hpublication.trans hp⟩
    · exact ⟨y, by rw [hvisits, getElem?_set hx]; exact .inr ⟨huv, hy⟩, hp⟩
  owned := by rw [hq.owners, hq.submitted, h.owned]
  owners t u := by
    rw [hq.owners, hvisits]
    exact h.owners_set hx x' hticket t u

/-- The map as it is, is that of now. -/
theorem Sound.mapAt_now (h : w.Sound n b) : w.mapAt w.history.length = w.registry.registered := by
  have hlength : w.published.length = w.history.length := List.length_map _
  rw [mapAt, h.map, ← hlength, List.take_length]

theorem installs_concat (history : List (Nat × Publication)) (p : Nat × Publication) :
    installs (history ++ [p]) = installs history + if p.2.left?.isSome then 1 else 0 := by
  rw [installs, List.countP_append, List.countP_singleton]
  rfl

/-- What is listed in a list with one more item was listed before, or is that item. -/
theorem getElem?_concat_iff {α : Type} {l : List α} {a c : α} {k : Nat} :
    (l ++ [a])[k]? = some c ↔ k < l.length ∧ l[k]? = some c ∨ k = l.length ∧ c = a := by
  rcases Nat.lt_trichotomy k l.length with hlt | rfl | hgt
  · rw [List.getElem?_append_left hlt]
    simp [hlt, Nat.ne_of_lt hlt]
  · rw [List.getElem?_concat_length]
    simp [eq_comm]
  · rw [List.getElem?_eq_none (by rw [List.length_append]; exact hgt)]
    simp [Nat.not_lt_of_lt hgt, Nat.ne_of_gt hgt]

/-- A call that publishes something is fair after it. -/
theorem Sound.fair_publish (h : w.Sound n b) {request : Request} {began : Nat} {stage : Stage}
    (hx : w.visits[v]? = some ⟨request, began, stage⟩) (hholds : stage.holds = true) {p : Publication} (registry : Registry)
    (duties : List Duty) (hanswers : Answers w.enforce w.registry.registered request (.published p)) :
    (w.publish v request began p registry duties).Fair v
      ⟨request, began, .answered w.history.length (.published p) (.leaving duties)⟩ := by
  have hg : w.Grown (w.publish v request began p registry duties) := ⟨rfl, List.prefix_append _ _, List.prefix_refl _⟩
  have hbegan : began ≤ w.history.length := (h.fair v _ hx).began_le
  refine ⟨Nat.le_trans hbegan hg.history.length_le, ⟨fun _ => (h.fair v _ hx).holds.mp hholds, fun _ => rfl⟩, ?_, ?_⟩
  · rintro c ⟨⟩
  · rintro k r errand hs
    obtain ⟨rfl, rfl, rfl⟩ := Stage.answered.inj hs
    refine ⟨hbegan, hg.history.length_le, ?_, ?_, rfl, ?_⟩
    · rw [hg.enforce, hg.mapAt_eq (Nat.le_refl _), h.mapAt_now]
      exact hanswers
    · rintro p' hp'
      obtain rfl := Response.published.inj hp'
      exact List.getElem?_concat_length
    · rintro t ⟨⟩

/-- A publication keeps the crowd sound, if it is made by the holder of the lock and the registry that comes of it is that of the changed
map. -/
theorem Sound.publish (h : w.Sound n b) {request : Request} {began : Nat} {stage : Stage}
    (hx : w.visits[v]? = some ⟨request, began, stage⟩) (hholds : stage.holds = true) (hnone : stage.publication? = none)
    (hticket : stage.ticket? = none) {p : Publication} {registry : Registry} (duties : List Duty)
    (hmap : registry.registered = p.apply w.registry.registered)
    (hcount : registry.registrations = w.registry.registrations + if p.left?.isSome then 1 else 0)
    (hserial : ∀ e ∈ p.left?, e.serial = w.registry.registrations)
    (hanswers : Answers w.enforce w.registry.registered request (.published p)) :
    (w.publish v request began p registry duties).Sound n b where
  workshop := h.workshop
  map := by
    change registry.registered = mapAfter ((w.history ++ [(v, p)]).map (·.2))
    rw [List.map_append, List.map_singleton, mapAfter_concat, hmap, h.map, published]
  counted := by
    change registry.registrations = installs (w.history ++ [(v, p)])
    rw [installs_concat, ← h.counted, hcount]
  numbered k u e hk := by
    change e.serial = installs ((w.history ++ [(v, p)]).take k)
    rcases getElem?_concat_iff.mp hk with ⟨hlt, hk⟩ | ⟨rfl, he⟩
    · rw [List.take_append_of_le_length (Nat.le_of_lt hlt)]
      exact h.numbered k u e hk
    · rw [List.take_left, ← h.counted]
      exact hserial e (congrArg Publication.left? (Prod.mk.inj he).2).symm
  fair u y hy := by
    rcases (getElem?_set hx).mp hy with ⟨rfl, rfl⟩ | ⟨hu, hy⟩
    · exact h.fair_publish hx hholds registry duties hanswers
    · -- nobody else holds the lock
      refine (h.fair u y hy).grown ⟨rfl, List.prefix_append _ _, List.prefix_refl _⟩ Iff.rfl fun hlock => ?_
      exact absurd (Option.some.inj (hlock.symm.trans ((h.fair v _ hx).holds.mp hholds))) hu
  locked u hu := by
    change u < (w.visits.set v _).length
    rw [List.length_set]
    exact h.locked u hu
  authors k u p' hk := by
    rcases getElem?_concat_iff.mp hk with ⟨-, hk⟩ | ⟨rfl, hp⟩
    · obtain ⟨y, hy, hp'⟩ := h.authors k u p' hk
      refine ⟨y, (getElem?_set hx).mpr (.inr ⟨?_, hy⟩), hp'⟩
      rintro rfl
      obtain rfl := Option.some.inj (hx.symm.trans hy)
      rw [hnone] at hp'
      cases hp'
    · obtain ⟨rfl, rfl⟩ := Prod.mk.inj hp
      exact ⟨_, (getElem?_set hx).mpr (.inl ⟨rfl, rfl⟩), rfl⟩
  owned := h.owned
  owners t u :=
    h.owners_set hx ⟨request, began, .answered w.history.length (.published p) (.leaving duties)⟩ hticket.symm t u

/-! ## Steps -/

/-- The ticket of a send is how many were submitted before. -/
theorem Sound.ticket_eq (h : w.Sound n b) (s : Send) : (w.workshop.pool.submit s).1 = w.workshop.submitted.length := by
  rw [Pool.submit, h.workshop.listed, h.workshop.accepted, List.length_map, List.length_map]

/-- What a dispatch is told by the hub is the answer of the map. -/
theorem answers_of_check {identity : String} {m : Message} :
    (∀ e, w.hub.check m identity = .ok e → Answers w.enforce w.registry.registered (.dispatch identity m) (.accepted e)) ∧
      ∀ e, w.hub.check m identity = .error e → Answers w.enforce w.registry.registered (.dispatch identity m) (.rejected e) := by
  rw [Hub.check]
  cases he : w.hub.registry.resolve identity with
  | none =>
    constructor
    · rintro e ⟨⟩
    · rintro e ⟨⟩
      exact .unknown he
  | some registration =>
    dsimp only
    split
    · next hrefused =>
      obtain ⟨henforce, hmissing⟩ := Bool.and_eq_true_iff.mp hrefused
      constructor
      · rintro e ⟨⟩
      · rintro e ⟨⟩
        exact .unsupported he henforce (Bool.not_eq_true' _ ▸ hmissing)
    · next hallowed =>
      constructor
      · rintro e ⟨⟩
        refine .accepted he fun henforce => ?_
        rw [Bool.and_eq_true_iff, not_and, Bool.not_eq_true', Bool.not_eq_false] at hallowed
        exact hallowed henforce
      · rintro e ⟨⟩

/-- A call that begins keeps the crowd sound. -/
theorem Sound.call (h : w.Sound n b) (request : Request) :
    ({ w with visits := w.visits ++ [⟨request, w.history.length, .called⟩] } : Crowd).Sound n b where
  workshop := h.workshop
  map := h.map
  counted := h.counted
  numbered := h.numbered
  fair u y hy := by
    have hg : w.Grown { w with visits := w.visits ++ [⟨request, w.history.length, .called⟩] } :=
      ⟨rfl, List.prefix_refl _, List.prefix_refl _⟩
    rcases getElem?_concat_iff.mp hy with ⟨-, hy⟩ | ⟨rfl, rfl⟩
    · exact (h.fair u y hy).grown hg Iff.rfl fun _ => rfl
    · refine ⟨Nat.le_refl _, ⟨nofun, fun hl => absurd (h.locked _ hl) (Nat.lt_irrefl _)⟩, nofun, ?_⟩
      rintro k r errand ⟨⟩
  locked u hu := by
    rw [List.length_append]
    exact Nat.lt_add_right 1 (h.locked u hu)
  authors k u p hk := by
    obtain ⟨y, hy, hp⟩ := h.authors k u p hk
    exact ⟨y, getElem?_of_prefix (List.prefix_append _ _) hy, hp⟩
  owned := h.owned
  owners t u := by
    rw [h.owners]
    constructor
    · rintro ⟨y, hy, ht⟩
      exact ⟨y, getElem?_of_prefix (List.prefix_append _ _) hy, ht⟩
    · rintro ⟨y, hy, ht⟩
      rcases getElem?_concat_iff.mp hy with ⟨-, hy⟩ | ⟨-, rfl⟩
      · exact ⟨y, hy, ht⟩
      · cases ht

/-- A send of an accepted dispatch keeps the crowd sound. -/
theorem Sound.submit (h : w.Sound n b) {identity : String} {m : Message} {began k : Nat} {e : Registration}
    (hx : w.visits[v]? = some ⟨.dispatch identity m, began, .answered k (.accepted e) .announced⟩) :
    ({ w with workshop := w.workshop.submit ⟨e, m⟩, owners := w.owners ++ [v] }.moved v
      ⟨.dispatch identity m, began, .answered k (.accepted e) (.submitted (w.workshop.pool.submit ⟨e, m⟩).1)⟩).Sound n b where
  workshop := h.workshop.submit ⟨e, m⟩
  map := h.map
  counted := h.counted
  numbered := h.numbered
  fair u y hy := by
    rcases (getElem?_set hx).mp hy with ⟨rfl, rfl⟩ | ⟨-, hy⟩
    · have hf := h.fair u _ hx
      have he := hf.effective _ _ _ rfl
      refine ⟨hf.began_le, hf.holds, nofun, fun k' r errand hs => ?_⟩
      obtain ⟨rfl, rfl, rfl⟩ := Stage.answered.inj hs
      refine ⟨he.after, he.before, he.answers, he.published, he.fits, fun t ht => ?_⟩
      obtain rfl := Option.some.inj ht
      refine ⟨identity, m, e, rfl, rfl, ?_⟩
      rw [h.ticket_eq]
      exact List.getElem?_concat_length
    · exact (h.fair u y hy).grown ⟨rfl, List.prefix_refl _, List.prefix_append _ _⟩ Iff.rfl fun _ => rfl
  locked u hu := by
    change u < (w.visits.set v _).length
    rw [List.length_set]
    exact h.locked u hu
  authors k' u p hk := by
    obtain ⟨y, hy, hp⟩ := h.authors k' u p hk
    refine ⟨y, (getElem?_set hx).mpr (.inr ⟨?_, hy⟩), hp⟩
    rintro rfl
    obtain rfl := Option.some.inj (hx.symm.trans hy)
    cases hp
  owned := by
    change (w.owners ++ [v]).length = (w.workshop.submitted ++ [(⟨e, m⟩ : Send)]).length
    rw [List.length_append, List.length_append, h.owned]
    rfl
  owners t u := by
    have hnew : (Stage.answered k (.accepted e) (.submitted (w.workshop.pool.submit ⟨e, m⟩).1)).ticket? = some w.owners.length := by
      rw [h.ticket_eq, ← h.owned]
      rfl
    have hnone : w.owners[t]? ≠ some v := by
      intro ht
      obtain ⟨y, hy, hyt⟩ := (h.owners t v).mp ht
      obtain rfl := Option.some.inj (hx.symm.trans hy)
      cases hyt
    change (w.owners ++ [v])[t]? = some u ↔ ∃ y : Visit, (w.visits.set v _)[u]? = some y ∧ y.stage.ticket? = some t
    simp only [getElem?_concat_iff, getElem?_set hx]
    by_cases huv : u = v
    · subst huv
      simp [hnew, hnone, eq_comm]
    · simp only [huv, false_and, and_false, or_false, false_or, ne_eq, not_false_eq_true, true_and, ← h.owners t u]
      exact ⟨And.right, fun ht => ⟨(List.getElem?_eq_some_iff.mp ht).1, ht⟩⟩

/-- What the workers do keeps the crowd sound. -/
theorem Sound.work (h : w.Sound n b) {workshop : Workshop} (hw : workshop.Sound n b) (hsame : workshop.submitted = w.workshop.submitted) :
    ({ w with workshop } : Crowd).Sound n b where
  workshop := hw
  map := h.map
  counted := h.counted
  numbered := h.numbered
  fair u y hy := by
    have hg : w.Grown { w with workshop } := ⟨rfl, List.prefix_refl _, hsame ▸ List.prefix_refl _⟩
    exact (h.fair u y hy).grown hg Iff.rfl fun _ => rfl
  locked := h.locked
  authors := h.authors
  owned := h.owned.trans (congrArg _ hsame.symm)
  owners := h.owners

section Quiet

variable {request : Request} {began : Nat} {stage : Stage}

/-- A step before a call takes effect keeps the crowd sound, if the call works on the map as it is. -/
theorem Sound.prepare (h : w.Sound n b) (hx : w.visits[v]? = some ⟨request, began, stage⟩) {stage' : Stage} (hq : w.Quiet w' v)
    (hvisits : w'.visits = w.visits.set v ⟨request, began, stage'⟩) (hw : w'.workshop.Sound n b)
    (hholds : stage'.holds = true ↔ w'.lock = some v) (hcopy : ∀ c, stage'.copy? = some c → c = w.registry.registered)
    (hbefore : stage.isAnswered = false) (hafter : stage'.isAnswered = false) : w'.Sound n b := by
  have hnone {stage : Stage} (hno : stage.isAnswered = false) : stage.publication? = none ∧ stage.ticket? = none := by
    cases stage with
    | answered k r errand => cases hno
    | _ => exact ⟨rfl, rfl⟩
  refine h.quiet hx hvisits hq hw ⟨?_, hholds, ?_, ?_⟩ ((hnone hafter).1.trans (hnone hbefore).1.symm)
    ((hnone hafter).2.trans (hnone hbefore).2.symm)
  · exact Nat.le_trans (h.fair v _ hx).began_le hq.grown.history.length_le
  · exact fun c hc => (hcopy c hc).trans hq.registered.symm
  · rintro k r errand rfl
    cases hafter

/-- A call that takes effect without a publication keeps the crowd sound, if it is told what the map answers. -/
theorem Sound.answer (h : w.Sound n b) (hx : w.visits[v]? = some ⟨request, began, stage⟩) {r : Response} {errand : Errand}
    (hq : w.Quiet w' v) (hvisits : w'.visits = w.visits.set v ⟨request, began, .answered w.history.length r errand⟩)
    (hw : w'.workshop.Sound n b) (hholds : (Stage.answered w.history.length r errand).holds = true ↔ w'.lock = some v)
    (hpublication : stage.publication? = none) (hticket : stage.ticket? = none)
    (hanswers : Answers w.enforce w.registry.registered request r) (hno : (Stage.answered w.history.length r errand).publication? = none)
    (hfits : errand.activates = r.isAccepted) (hnew : errand.ticket? = none) : w'.Sound n b := by
  have hbegan : began ≤ w.history.length := (h.fair v _ hx).began_le
  refine h.quiet hx hvisits hq hw ⟨Nat.le_trans hbegan hq.grown.history.length_le, hholds, ?_, ?_⟩ (hno.trans hpublication.symm)
    (hnew.trans hticket.symm)
  · rintro c ⟨⟩
  · intro k r' errand' hs
    obtain ⟨rfl, rfl, rfl⟩ := Stage.answered.inj hs
    refine ⟨hbegan, hq.grown.history.length_le, ?_, ?_, hfits, ?_⟩
    · rw [hq.enforce, hq.grown.mapAt_eq (Nat.le_refl _), h.mapAt_now]
      exact hanswers
    · rintro p rfl
      cases hno
    · rw [hnew]
      rintro t ⟨⟩

/-- A call that goes on with its errand keeps the crowd sound. -/
theorem Sound.proceed (h : w.Sound n b) {k : Nat} {r : Response} {errand errand' : Errand}
    (hx : w.visits[v]? = some ⟨request, began, .answered k r errand⟩) (hq : w.Quiet w' v)
    (hvisits : w'.visits = w.visits.set v ⟨request, began, .answered k r errand'⟩) (hw : w'.workshop.Sound n b)
    (hholds : (Stage.answered k r errand').holds = true ↔ w'.lock = some v) (hactivates : errand'.activates = errand.activates)
    (hticket : errand'.ticket? = errand.ticket?) : w'.Sound n b := by
  have hf := h.fair v _ hx
  refine h.quiet hx hvisits hq hw ⟨Nat.le_trans hf.began_le hq.grown.history.length_le, hholds, ?_, ?_⟩ ?_ hticket
  · rintro c ⟨⟩
  · intro k' r' errand'' hs
    obtain ⟨rfl, rfl, rfl⟩ := Stage.answered.inj hs
    have he := (hf.effective _ _ _ rfl).grown hq.grown
    exact ⟨he.after, he.before, he.answers, he.published, hactivates.trans he.fits, fun t ht => he.delivers t (hticket ▸ ht)⟩
  · cases r <;> rfl

end Quiet

/-- Restoring an activation does not change the map. -/
theorem registered_restore (r : Registry) (restored : Option Instant) (place : Nat) :
    (r.restore restored place).registered = r.registered := by
  cases restored <;> rfl

theorem registrations_restore (r : Registry) (restored : Option Instant) (place : Nat) :
    (r.restore restored place).registrations = r.registrations := by
  cases restored <;> rfl

/-- A step keeps a crowd sound. -/
theorem Sound.step (h : w.Sound n b) (hstep : w.Step w') : w'.Sound n b := by
  cases hstep with
  | call request => exact h.call request
  | lock hx hw hfree =>
    refine h.prepare hx ⟨rfl, rfl, rfl, rfl, rfl, rfl, fun u hu => ?_⟩ rfl h.workshop ⟨fun _ => rfl, fun _ => rfl⟩ ?_ rfl rfl
    · simp [moved, hfree, Ne.symm hu]
    · rintro c ⟨⟩
  | copy hx hc =>
    exact h.prepare hx ⟨rfl, rfl, rfl, rfl, rfl, rfl, fun _ _ => Iff.rfl⟩ rfl h.workshop (h.fair _ _ hx).holds
      (fun c hc => (Option.some.inj hc).symm) rfl rfl
  | vacate hx =>
    exact h.prepare hx ⟨rfl, rfl, rfl, rfl, rfl, rfl, fun _ _ => Iff.rfl⟩ rfl h.workshop (h.fair _ _ hx).holds (h.fair _ _ hx).copy rfl rfl
  | place hx =>
    exact h.prepare hx ⟨rfl, rfl, rfl, rfl, rfl, rfl, fun _ _ => Iff.rfl⟩ rfl h.workshop (h.fair _ _ hx).holds (h.fair _ _ hx).copy rfl rfl
  | restore hx =>
    exact h.prepare hx ⟨rfl, rfl, registered_restore .., registrations_restore .., rfl, rfl, fun _ _ => Iff.rfl⟩ rfl h.workshop
      (h.fair _ _ hx).holds (h.fair _ _ hx).copy rfl rfl
  | @install v restored identity target began copy place hx =>
    obtain rfl := (h.fair v _ hx).copy _ rfl
    refine h.publish hx rfl rfl rfl _ rfl rfl ?_ (.installed restored ⟨identity, place, w.registry.registrations, target⟩)
    rintro e ⟨⟩
    rfl
  | @withdraw v identity began e copy hx he =>
    obtain rfl := (h.fair v _ hx).copy _ rfl
    refine h.publish hx rfl rfl rfl _ rfl rfl ?_ (.removed he)
    rintro e ⟨⟩
  | @passOver v identity began copy hx he =>
    obtain rfl := (h.fair v _ hx).copy _ rfl
    exact h.answer hx ⟨rfl, rfl, rfl, rfl, rfl, rfl, fun _ _ => Iff.rfl⟩ rfl h.workshop (h.fair v _ hx).holds rfl rfl (.passedOver he)
      rfl rfl rfl
  | withdrawAll hx =>
    refine h.publish hx rfl rfl rfl _ rfl rfl ?_ .cleared
    rintro e ⟨⟩
  | @unlock v request began k r duties hx =>
    have hlock : w.lock = some v := (h.fair v _ hx).holds.mp rfl
    refine h.proceed hx ⟨rfl, rfl, rfl, rfl, rfl, rfl, fun u hu => ?_⟩ rfl h.workshop ?_ rfl rfl
    · simp [moved, hlock, Ne.symm hu]
    · simp [moved, Stage.holds]
  | release hx =>
    exact h.proceed hx ⟨rfl, rfl, rfl, rfl, rfl, rfl, fun _ _ => Iff.rfl⟩ rfl h.workshop (h.fair _ _ hx).holds rfl rfl
  | @tell _ _ _ _ _ e _ hx =>
    exact h.proceed hx ⟨rfl, rfl, rfl, rfl, rfl, rfl, fun _ _ => Iff.rfl⟩ rfl (h.workshop.step (.announce e)) (h.fair _ _ hx).holds rfl rfl
  | look hx =>
    exact h.answer hx ⟨rfl, rfl, rfl, rfl, rfl, rfl, fun _ _ => Iff.rfl⟩ rfl h.workshop (h.fair _ _ hx).holds rfl rfl .seen rfl rfl rfl
  | resolve hx hc =>
    exact h.answer hx ⟨rfl, rfl, rfl, rfl, rfl, rfl, fun _ _ => Iff.rfl⟩ rfl h.workshop (h.fair _ _ hx).holds rfl rfl
      (answers_of_check.1 _ hc) rfl rfl rfl
  | reject hx hc =>
    exact h.answer hx ⟨rfl, rfl, rfl, rfl, rfl, rfl, fun _ _ => Iff.rfl⟩ rfl h.workshop (h.fair _ _ hx).holds rfl rfl
      (answers_of_check.2 _ hc) rfl rfl rfl
  | stamp now hx =>
    exact h.proceed hx ⟨rfl, rfl, rfl, rfl, rfl, rfl, fun _ _ => Iff.rfl⟩ rfl h.workshop (h.fair _ _ hx).holds rfl rfl
  | @announce _ _ _ _ _ t e hx =>
    exact h.proceed hx ⟨rfl, rfl, rfl, rfl, rfl, rfl, fun _ _ => Iff.rfl⟩ rfl (h.workshop.step (.announce (.activated e.identity t)))
      (h.fair _ _ hx).holds rfl rfl
  | submit hx => exact h.submit hx
  | leave hx => exact h.proceed hx ⟨rfl, rfl, rfl, rfl, rfl, rfl, fun _ _ => Iff.rfl⟩ rfl h.workshop (h.fair _ _ hx).holds rfl rfl
  | leaveSubmitted hx =>
    exact h.proceed hx ⟨rfl, rfl, rfl, rfl, rfl, rfl, fun _ _ => Iff.rfl⟩ rfl h.workshop (h.fair _ _ hx).holds rfl rfl
  | work hw hsame => exact h.work (h.workshop.step hw) hsame

/-- A crowd that nobody has come to is sound. -/
theorem sound_opened (n : Nat) (b : Bus) (enforce : Bool) : (opened n b enforce).Sound n b where
  workshop := Workshop.sound_opened n b
  map := rfl
  counted := rfl
  numbered := by simp [opened]
  fair := by simp [opened]
  locked := by simp [opened]
  authors := by simp [opened]
  owned := rfl
  owners := by simp [opened]

/-- So is every crowd that comes of it. -/
theorem Sound.runs (h : w.Sound n b) (hruns : ReflTransGen Step w w') : w'.Sound n b := by
  induction hruns with
  | refl => exact h
  | tail _ hstep ih => exact ih.step hstep

end Crowd

end Herald
