import Herald.Proofs.DirectCall
import Herald.Proofs.Presence
import Herald.Proofs.Settling

/-!
# Callers and workers

Any number of callers dispatch messages or make service calls, in steps as small as anyone can tell apart: a caller checks its targets one
after the other, and then for each of them stamps the activation, publishes it, and hands the send to the pool. In between the workers take
their steps with what was handed to them, and registrations come and go. Whoever waits for a send does so after all this, and changes
nothing.

Every activation that is published is followed by one send, and every send is told of once it has ended. So the activations of an identity
are those sends that have ended, those that have not, and those that are still to be handed over (`Exchange.Sound`).
-/

namespace Herald

open Relation (ReflTransGen)
open Counting (countP_flatMap_set countP_set_add)

namespace Workshop

/-- What was published that is about no job. -/
def unattached (w : Workshop) : List Event :=
  (w.posted.filter fun p => p.1.isNone).map (·.2)

/-- A step of a job, with which nobody submits or publishes anything else. -/
structure Works (w w' : Workshop) : Prop where
  step : w.Step w'
  submitted : w'.submitted = w.submitted
  unattached : w'.unattached = w.unattached

end Workshop

namespace Registry

/-- What happens to a registry at one moment, apart from the stamps of dispatches. -/
inductive Change (r : Registry) : Registry → Prop
  | allocate (identity : String) : Change r (r.allocate identity).2
  | restore (place : Nat) (t : Instant) : Change r (r.stamp place t).2
  | put (identity : String) {place : Nat} (hp : place < r.stamps.length) (target : Target) : Change r (r.put identity place target)
  | remove (identity : String) : Change r (r.remove identity)
  | removeAll : Change r r.removeAll

/-- Whether what identities resolve to is theirs, and has a place. -/
def Addressed (r : Registry) : Prop :=
  ∀ identity e, r.resolve identity = some e → e.identity = identity ∧ e.place < r.stamps.length

end Registry

namespace Exchange

/-- What a caller asks for. -/
inductive Request
  /-- A dispatch, whether it is waited for or not. -/
  | dispatch (identity : String) (m : Message)
  | service (data : Value)

/-- The targets and the message that are asked for. -/
def Request.read : Request → Except DispatchError Call
  | .dispatch identity m => .ok ⟨[identity], m⟩
  | .service data => Call.ofValue data

/-- How far a caller has come. -/
inductive Stage
  | checking
  /-- All targets are accepted, and the next is to be stamped if there is one left. -/
  | activating
  | stamped (at' : Instant)
  | announced
  | rejected (e : DispatchError)

/-- A caller: its targets and its message, what its targets were found to be, and how many of these it has handed over. -/
structure Caller where
  targets : List String := []
  message : Message := {}
  found : List Registration := []
  handed : Nat := 0
  stage : Stage

/-- Whether all targets of a caller at a stage are accepted. -/
def Stage.accepts : Stage → Bool
  | .checking => false
  | .rejected _ => false
  | _ => true

namespace Caller

/-- A caller who has just come. -/
def of (request : Request) : Caller :=
  match request.read with
  | .ok call => { targets := call.targets, message := call.message, stage := .checking }
  | .error e => { stage := .rejected e }

/-- The identities to which dispatches were accepted. -/
def accepted (c : Caller) : List String :=
  if c.stage.accepts then c.targets else []

/-- The registrations for which sends were handed over. -/
def given (c : Caller) : List Registration :=
  c.found.take c.handed

/-- The registrations whose activations were published. -/
def published (c : Caller) : List Registration :=
  match c.stage with
  | .announced => c.found.take (c.handed + 1)
  | _ => c.given

/-- Whether a caller is done: it was rejected, or it has handed over everything. -/
def IsDone (c : Caller) : Prop :=
  (∃ e, c.stage = .rejected e) ∨ (c.stage = .activating ∧ c.handed = c.found.length)

end Caller

end Exchange

/-- A registry with workers and callers, and the activations that were published: of which registration, and of when. -/
structure Exchange where
  registry : Registry := {}
  workshop : Workshop
  /-- Whether a message with fields that its target does not support is rejected. -/
  enforce : Bool := false
  callers : List Exchange.Caller := []
  activated : List (Registration × Instant) := []

namespace Exchange

/-- A registry without targets, so many workers, a bus on which nothing was published, and nobody there. -/
def opened (workers capacity : Nat) (enforce : Bool) : Exchange where
  workshop := .opened workers ⟨capacity, []⟩
  enforce

/-- The hub that a caller finds. -/
def hub (x : Exchange) : Hub where
  registry := x.registry
  bus := x.workshop.bus
  pool := x.workshop.pool
  enforceFeatures := x.enforce

/-- Everything that was published. -/
def events (x : Exchange) : List Event :=
  x.workshop.bus.published

/-- The exchange with a caller who has gone on. -/
def moved (x : Exchange) (v : Nat) (c : Caller) : Exchange :=
  { x with callers := x.callers.set v c }

@[simp] theorem registry_moved (x : Exchange) (v : Nat) (c : Caller) : (x.moved v c).registry = x.registry :=
  rfl

@[simp] theorem workshop_moved (x : Exchange) (v : Nat) (c : Caller) : (x.moved v c).workshop = x.workshop :=
  rfl

@[simp] theorem callers_moved (x : Exchange) (v : Nat) (c : Caller) : (x.moved v c).callers = x.callers.set v c :=
  rfl

@[simp] theorem activated_moved (x : Exchange) (v : Nat) (c : Caller) : (x.moved v c).activated = x.activated :=
  rfl

@[simp] theorem events_moved (x : Exchange) (v : Nat) (c : Caller) : (x.moved v c).events = x.events :=
  rfl

/-- What some caller, some worker or somebody else does next. -/
inductive Step (x : Exchange) : Exchange → Prop
  | come (request : Request) : Step x { x with callers := x.callers ++ [.of request] }
  | find {v : Nat} {c : Caller} {identity : String} {e : Registration} (hc : x.callers[v]? = some c) (hs : c.stage = .checking)
    (ht : c.targets[c.found.length]? = some identity) (he : x.hub.check c.message identity = .ok e) :
    Step x (x.moved v { c with found := c.found ++ [e] })
  | reject {v : Nat} {c : Caller} {identity : String} {e : DispatchError} (hc : x.callers[v]? = some c) (hs : c.stage = .checking)
    (ht : c.targets[c.found.length]? = some identity) (he : x.hub.check c.message identity = .error e) :
    Step x (x.moved v { c with stage := .rejected e })
  | accept {v : Nat} {c : Caller} (hc : x.callers[v]? = some c) (hs : c.stage = .checking) (hall : c.targets.length = c.found.length) :
    Step x (x.moved v { c with stage := .activating })
  | stamp {v : Nat} {c : Caller} {e : Registration} (now : Instant) (hc : x.callers[v]? = some c) (hs : c.stage = .activating)
    (he : c.found[c.handed]? = some e) :
    Step x ({ x with registry := (x.registry.stamp e.place now).2 }.moved v
      { c with stage := .stamped (x.registry.stamp e.place now).1 })
  | announce {v : Nat} {c : Caller} {e : Registration} {t : Instant} (hc : x.callers[v]? = some c) (hs : c.stage = .stamped t)
    (he : c.found[c.handed]? = some e) :
    Step x ({ x with workshop := x.workshop.post none (.activated e.identity t), activated := x.activated ++ [(e, t)] }.moved v
      { c with stage := .announced })
  | submit {v : Nat} {c : Caller} {e : Registration} (hc : x.callers[v]? = some c) (hs : c.stage = .announced)
    (he : c.found[c.handed]? = some e) :
    Step x ({ x with workshop := x.workshop.submit ⟨e, c.message⟩ }.moved v { c with handed := c.handed + 1, stage := .activating })
  | work {workshop : Workshop} (h : x.workshop.Works workshop) : Step x { x with workshop }
  | change {registry : Registry} (h : x.registry.Change registry) : Step x { x with registry }
  /-- Somebody tells of a registration or a removal. -/
  | tell {e : Event} (ho : e.isOutcome = false) (ha : e.activation? = none) : Step x { x with workshop := x.workshop.post none e }

/-! ## Counting -/

/-- How many activations of an identity some events tell of. -/
def activations (identity : String) (events : List Event) : Nat :=
  (events.filterMap Event.activation?).countP fun a => a.1 == identity

/-- How many ends of sends to an identity some events tell of. -/
def outcomes (identity : String) (events : List Event) : Nat :=
  events.countP fun e => e.isOutcome && e.identity == identity

/-- How many of some registrations are those of an identity. -/
def sharedBy (identity : String) (es : List Registration) : Nat :=
  es.countP fun e => e.identity == identity

/-- How many sends to an identity were handed to the pool. -/
def submissions (x : Exchange) (identity : String) : Nat :=
  x.workshop.jobs.countP fun j => j.send.registration.identity == identity

/-- How many sends to an identity have ended and been told of. -/
def ended (x : Exchange) (identity : String) : Nat :=
  x.workshop.jobs.countP fun j => j.send.registration.identity == identity && j.heard?.isSome

/-- How many dispatches to an identity were accepted. -/
def accepted (x : Exchange) (identity : String) : Nat :=
  (x.callers.flatMap Caller.accepted).count identity

/-! ## What a sound exchange keeps -/

namespace Caller

/-- A caller who has found what it asked for as far as it came, and has handed over nothing before everything was accepted. -/
structure Fair (r : Registry) (c : Caller) : Prop where
  named : c.found.map (·.identity) <+: c.targets
  placed : ∀ e ∈ c.found, e.place < r.stamps.length
  handed_le : c.handed ≤ c.found.length
  accepted : c.stage.accepts = true → c.found.length = c.targets.length
  waiting : c.stage.accepts = false → c.handed = 0
  stamped : ∀ t, c.stage = .stamped t → ∀ e, c.found[c.handed]? = some e → r.Reaches e.place t

end Caller

/-- An exchange in which the events, the sends and the callers tell the same. -/
structure Sound (n : Nat) (b : Bus) (x : Exchange) : Prop where
  workshop : x.workshop.Sound n b
  addressed : x.registry.Addressed
  fair : ∀ c ∈ x.callers, c.Fair x.registry
  /-- The activations in the events are those that are noted. -/
  told : x.events.filterMap Event.activation? = x.activated.map fun a => (a.1.identity, a.2)
  /-- The cell of an activation that was published does not fall behind it. -/
  reached : ∀ e t, (e, t) ∈ x.activated → x.registry.Reaches e.place t
  published : ∀ identity, sharedBy identity (x.activated.map (·.1)) = sharedBy identity (x.callers.flatMap Caller.published)
  given : ∀ identity, x.submissions identity = sharedBy identity (x.callers.flatMap Caller.given)
  outcomes : ∀ identity, outcomes identity x.events = x.ended identity

variable {n : Nat} {b : Bus} {x x' : Exchange} {v : Nat} {c c' : Caller}

/-! ## One caller goes on -/

/-- One more item of a list. -/
theorem sharedBy_take_succ {es : List Registration} {k : Nat} {e : Registration} (he : es[k]? = some e) (identity : String) :
    sharedBy identity (es.take (k + 1)) = sharedBy identity (es.take k) + (e.identity == identity).toNat := by
  have hone : sharedBy identity [e] = (e.identity == identity).toNat := by
    cases h : e.identity == identity <;> simp [sharedBy, h]
  rw [List.take_add_one, he, Option.toList_some, ← hone]
  exact List.countP_append

/-- What callers have in common stays if what one of them has does. -/
theorem sharedBy_set {f : Caller → List Registration} (hc : x.callers[v]? = some c) (hsame : f c' = f c) (identity : String) :
    sharedBy identity ((x.callers.set v c').flatMap f) = sharedBy identity (x.callers.flatMap f) := by
  have hcount := countP_flatMap_set hc c' f fun e => e.identity == identity
  rw [hsame] at hcount
  exact Nat.add_right_cancel hcount

/-- It gains the registration that one of them gains. -/
theorem sharedBy_set_succ {f : Caller → List Registration} {es : List Registration} {k : Nat} {e : Registration}
    (hc : x.callers[v]? = some c) (hbefore : f c = es.take k) (hafter : f c' = es.take (k + 1)) (he : es[k]? = some e) (identity : String) :
    sharedBy identity ((x.callers.set v c').flatMap f) =
      sharedBy identity (x.callers.flatMap f) + (e.identity == identity).toNat := by
  have hcount := countP_flatMap_set hc c' f fun e => e.identity == identity
  have hone := sharedBy_take_succ he identity
  rw [hbefore, hafter] at hcount
  rw [sharedBy, sharedBy] at hone ⊢
  omega

/-- Callers stay fair if the one who goes on does. -/
theorem Sound.fair_set (h : x.Sound n b) (hfair : c'.Fair x.registry) : ∀ d ∈ x.callers.set v c', d.Fair x.registry := by
  intro d hd
  rcases List.mem_or_eq_of_mem_set hd with hd | rfl
  · exact h.fair d hd
  · exact hfair

/-! ## Steps that nothing is told of -/

/-- A caller stays fair when the registry gets more places and no place loses an activation. -/
theorem Caller.Fair.rises {r r' : Registry} (h : c.Fair r) (hlength : r.stamps.length ≤ r'.stamps.length)
    (hreaches : ∀ place t, r.Reaches place t → r'.Reaches place t) : c.Fair r' where
  named := h.named
  placed e he := Nat.lt_of_lt_of_le (h.placed e he) hlength
  handed_le := h.handed_le
  accepted := h.accepted
  waiting := h.waiting
  stamped t ht e he := hreaches _ _ (h.stamped t ht e he)

/-- An exchange stays sound when the registry gets more places, no place loses an activation, and identities stay addressed. -/
theorem Sound.rises (h : x.Sound n b) {registry : Registry} (haddressed : registry.Addressed)
    (hlength : x.registry.stamps.length ≤ registry.stamps.length)
    (hreaches : ∀ place t, x.registry.Reaches place t → registry.Reaches place t) : Sound n b { x with registry } where
  workshop := h.workshop
  addressed := haddressed
  fair c hc := (h.fair c hc).rises hlength hreaches
  told := h.told
  reached e t ht := hreaches _ _ (h.reached e t ht)
  published := h.published
  given := h.given
  outcomes := h.outcomes

/-- A change of the registry keeps an exchange sound. -/
theorem Sound.change (h : x.Sound n b) {registry : Registry} (hchange : x.registry.Change registry) :
    Sound n b { x with registry } := by
  cases hchange with
  | allocate identity =>
    have hlength := x.registry.length_stamps_allocate_le identity
    refine h.rises (fun i e he => ?_) hlength fun place t hr => ?_
    · rw [Registry.resolve, Registry.registered_allocate] at he
      exact ⟨(h.addressed i e he).1, Nat.lt_of_lt_of_le (h.addressed i e he).2 hlength⟩
    · rwa [Registry.Reaches, Registry.lastNotified_allocate]
  | restore place t =>
    refine h.rises (fun i e he => ?_) (Nat.le_of_eq (Registry.length_stamps_stamp _ _ _).symm) fun p u hr => hr.stamp place t
    rw [Registry.length_stamps_stamp]
    exact h.addressed i e he
  | @put identity place hp target =>
    refine h.rises (fun i e he => ?_) (Nat.le_refl _) fun _ _ hr => hr
    by_cases hi : i = identity
    · subst hi
      rw [Registry.resolve, Registry.put, Keyed.get?_insert_self] at he
      obtain rfl := Option.some.inj he
      exact ⟨rfl, hp⟩
    · rw [Registry.resolve, Registry.put, Keyed.get?_insert_of_ne hi] at he
      exact h.addressed i e he
  | remove identity =>
    refine h.rises (fun i e he => ?_) (Nat.le_refl _) fun _ _ hr => hr
    by_cases hi : i = identity
    · subst hi
      rw [Registry.resolve, Registry.remove, Keyed.get?_erase_self] at he
      cases he
    · rw [Registry.resolve, Registry.remove, Keyed.get?_erase_of_ne hi] at he
      exact h.addressed i e he
  | removeAll => exact h.rises (fun _ _ he => by cases he) (Nat.le_refl _) fun _ _ hr => hr

/-- A caller who goes on without publishing or handing over anything keeps an exchange sound. -/
theorem Sound.moved (h : x.Sound n b) (hc : x.callers[v]? = some c) (hfair : c'.Fair x.registry)
    (hpublished : c'.published = c.published) (hgiven : c'.given = c.given) : (x.moved v c').Sound n b where
  workshop := h.workshop
  addressed := h.addressed
  fair := h.fair_set hfair
  told := h.told
  reached := h.reached
  published identity := (h.published identity).trans (sharedBy_set hc hpublished identity).symm
  given identity := (h.given identity).trans (sharedBy_set hc hgiven identity).symm
  outcomes := h.outcomes

/-- A caller who has found nothing yet is fair. -/
theorem Caller.fair_of_empty (r : Registry) (targets : List String) (m : Message) {stage : Stage} (hs : stage.accepts = false) :
    Caller.Fair r { targets, message := m, stage } where
  named := List.nil_prefix
  placed _ he := absurd he List.not_mem_nil
  handed_le := Nat.le_refl _
  accepted ha := absurd ha (by rw [hs]; exact Bool.false_ne_true)
  waiting _ := rfl
  stamped _ _ _ he := nomatch he

/-- A caller who goes on after everything was accepted stays fair. -/
theorem Caller.Fair.accepting {r : Registry} (h : c.Fair r) (hall : c.found.length = c.targets.length) {stage : Stage}
    (hs : stage.accepts = true) (hstamped : ∀ t, stage = .stamped t → ∀ e, c.found[c.handed]? = some e → r.Reaches e.place t) :
    Caller.Fair r { c with stage } :=
  { h with
    accepted := fun _ => hall
    waiting := fun hw => absurd (hs.symm.trans hw) Bool.true_eq_false.mp
    stamped := hstamped }

/-- A caller who has just come is fair. -/
theorem Caller.fair_of (r : Registry) (request : Request) : (Caller.of request).Fair r := by
  rw [Caller.of]
  split
  · exact fair_of_empty r _ _ rfl
  · exact fair_of_empty r _ _ rfl

/-- A caller who comes keeps an exchange sound. -/
theorem Sound.come (h : x.Sound n b) (request : Request) : Sound n b { x with callers := x.callers ++ [.of request] } := by
  have hnone : (Caller.of request).published = [] ∧ (Caller.of request).given = [] := by
    rw [Caller.of]
    split <;> exact ⟨rfl, rfl⟩
  refine { h with fair := fun d hd => ?_, published := fun identity => ?_, given := fun identity => ?_ }
  · rcases List.mem_append.mp hd with hd | hd
    · exact h.fair d hd
    · exact List.mem_singleton.mp hd ▸ Caller.fair_of x.registry request
  · rw [h.published, List.flatMap_append, List.flatMap_singleton, hnone.1, List.append_nil]
  · rw [List.flatMap_append, List.flatMap_singleton, hnone.2, List.append_nil]
    exact h.given identity

/-! ## Steps of callers -/

/-- What a check accepts is what the identity resolves to, and the registry has a place for it. -/
theorem Sound.check (h : x.Sound n b) {m : Message} {identity : String} {e : Registration} (hc : x.hub.check m identity = .ok e) :
    e.identity = identity ∧ e.place < x.registry.stamps.length :=
  h.addressed identity e (Hub.resolve_of_check hc)

/-- A caller who finds its next target keeps an exchange sound. -/
theorem Sound.find (h : x.Sound n b) {identity : String} {e : Registration} (hc : x.callers[v]? = some c) (hs : c.stage = .checking)
    (ht : c.targets[c.found.length]? = some identity) (he : x.hub.check c.message identity = .ok e) :
    (x.moved v { c with found := c.found ++ [e] }).Sound n b := by
  have hfair := h.fair c (List.mem_of_getElem? hc)
  obtain ⟨hidentity, hplace⟩ := h.check he
  have hzero : c.handed = 0 := hfair.waiting (by rw [hs]; rfl)
  refine h.moved hc ?_ ?_ ?_
  · refine { hfair with named := ?_, placed := fun f hf => ?_, handed_le := ?_, accepted := ?_, stamped := ?_ }
    · obtain ⟨rest, hrest⟩ := hfair.named
      rw [← hrest, List.getElem?_append_right (by simp), List.length_map, Nat.sub_self] at ht
      cases rest with
      | nil => cases ht
      | cons first rest =>
        obtain rfl : first = identity := Option.some.inj ht
        exact ⟨rest, by rw [← hrest, List.map_append, hidentity.symm]; simp⟩
    · rcases List.mem_append.mp hf with hf | hf
      · exact hfair.placed f hf
      · exact List.mem_singleton.mp hf ▸ hplace
    · rw [hzero]
      exact Nat.zero_le _
    · intro ha
      rw [hs] at ha
      cases ha
    · intro t ht
      rw [hs] at ht
      cases ht
  · simp [Caller.published, Caller.given, hs, hzero]
  · simp [Caller.given, hzero]

/-- A caller whose next target is refused keeps an exchange sound. -/
theorem Sound.reject (h : x.Sound n b) (e : DispatchError) (hc : x.callers[v]? = some c) (hs : c.stage = .checking) :
    (x.moved v { c with stage := .rejected e }).Sound n b := by
  have hfair := h.fair c (List.mem_of_getElem? hc)
  have hzero : c.handed = 0 := hfair.waiting (by rw [hs]; rfl)
  refine h.moved hc { hfair with accepted := fun ha => ?_, waiting := fun _ => hzero, stamped := fun t ht => ?_ } ?_ rfl
  · cases ha
  · cases ht
  · simp [Caller.published, Caller.given, hs]

/-- A caller whose targets are all accepted keeps an exchange sound. -/
theorem Sound.accept (h : x.Sound n b) (hc : x.callers[v]? = some c) (hs : c.stage = .checking)
    (hall : c.targets.length = c.found.length) : (x.moved v { c with stage := .activating }).Sound n b := by
  have hfair := h.fair c (List.mem_of_getElem? hc)
  refine h.moved hc (hfair.accepting hall.symm rfl fun t ht => by cases ht) ?_ rfl
  simp [Caller.published, Caller.given, hs]

/-- A caller who stamps its next target keeps an exchange sound. -/
theorem Sound.stamp (h : x.Sound n b) {e : Registration} (now : Instant) (hc : x.callers[v]? = some c) (hs : c.stage = .activating)
    (he : c.found[c.handed]? = some e) :
    Sound n b ({ x with registry := (x.registry.stamp e.place now).2 }.moved v
      { c with stage := .stamped (x.registry.stamp e.place now).1 }) := by
  have hstamped := h.change (.restore e.place now)
  have hfair := hstamped.fair c (List.mem_of_getElem? hc)
  have hplace := (h.fair c (List.mem_of_getElem? hc)).placed e (List.mem_of_getElem? he)
  refine hstamped.moved hc ?_ ?_ rfl
  · refine hfair.accepting (hfair.accepted (by rw [hs]; rfl)) rfl fun t ht f hf => ?_
    obtain rfl : _ = t := Stage.stamped.inj ht
    obtain rfl : e = f := Option.some.inj (he.symm.trans hf)
    exact ⟨_, by rw [Registry.lastNotified_stamp _ hplace, if_pos rfl, Instant.latest_some, ← Registry.stamp_fst], Std.le_refl _⟩
  · simp [Caller.published, Caller.given, hs]

/-- A caller who publishes the activation of its next target keeps an exchange sound. -/
theorem Sound.announce (h : x.Sound n b) {e : Registration} {t : Instant} (hc : x.callers[v]? = some c) (hs : c.stage = .stamped t)
    (he : c.found[c.handed]? = some e) :
    Sound n b ({ x with workshop := x.workshop.post none (.activated e.identity t), activated := x.activated ++ [(e, t)] }.moved v
      { c with stage := .announced }) := by
  have hfair := h.fair c (List.mem_of_getElem? hc)
  have hreaches := hfair.stamped t hs e he
  constructor
  case workshop => exact h.workshop.step (.announce _)
  case addressed => exact h.addressed
  case fair => exact h.fair_set (hfair.accepting (hfair.accepted (by rw [hs]; rfl)) rfl fun u hu => by cases hu)
  case told =>
    have hevents : (x.workshop.post none (.activated e.identity t)).bus.published = x.events ++ [.activated e.identity t] := rfl
    rw [events_moved, events, hevents, List.filterMap_append, h.told, activated_moved, List.map_append]
    rfl
  case reached =>
    intro f u hfu
    rcases List.mem_append.mp hfu with hfu | hfu
    · exact h.reached f u hfu
    · obtain ⟨rfl, rfl⟩ := Prod.mk.inj (List.mem_singleton.mp hfu)
      exact hreaches
  case published =>
    intro identity
    have hlast : sharedBy identity ((x.activated ++ [(e, t)]).map (·.1)) =
        sharedBy identity (x.activated.map (·.1)) + (e.identity == identity).toNat := by
      cases hi : e.identity == identity <;> simp [sharedBy, hi]
    have hbefore : c.published = c.found.take c.handed := by
      rw [Caller.published, hs]
      rfl
    rw [activated_moved, hlast, h.published, callers_moved, sharedBy_set_succ hc hbefore rfl he]
  case given =>
    intro identity
    have hsame : Caller.given { c with stage := .announced } = c.given := rfl
    exact (h.given identity).trans (sharedBy_set hc hsame identity).symm
  case outcomes =>
    intro identity
    have hevents : (x.workshop.post none (.activated e.identity t)).bus.published = x.events ++ [.activated e.identity t] := rfl
    rw [events_moved, events, hevents, Exchange.outcomes, List.countP_append]
    exact h.outcomes identity

/-- A caller who hands over its next target keeps an exchange sound. -/
theorem Sound.submit (h : x.Sound n b) {e : Registration} (hc : x.callers[v]? = some c) (hs : c.stage = .announced)
    (he : c.found[c.handed]? = some e) :
    Sound n b ({ x with workshop := x.workshop.submit ⟨e, c.message⟩ }.moved v
      { c with handed := c.handed + 1, stage := .activating }) := by
  have hfair := h.fair c (List.mem_of_getElem? hc)
  have hlt : c.handed < c.found.length := (List.getElem?_eq_some_iff.mp he).1
  constructor
  case workshop => exact h.workshop.submit _
  case addressed => exact h.addressed
  case fair =>
    have hgone : Caller.Fair x.registry { c with stage := .activating } :=
      hfair.accepting (hfair.accepted (by rw [hs]; rfl)) rfl fun u hu => by cases hu
    refine h.fair_set { hgone with handed_le := hlt, waiting := fun hw => ?_, stamped := fun u hu => ?_ }
    · cases hw
    · cases hu
  case told => exact h.told
  case reached => exact h.reached
  case published =>
    intro identity
    have hsame : Caller.published { c with handed := c.handed + 1, stage := .activating } = c.published := by
      simp [Caller.published, Caller.given, hs]
    exact (h.published identity).trans (sharedBy_set hc hsame identity).symm
  case given =>
    intro identity
    have hlast : submissions ({ x with workshop := x.workshop.submit ⟨e, c.message⟩ }.moved v
        { c with handed := c.handed + 1, stage := .activating }) identity = x.submissions identity + (e.identity == identity).toNat := by
      cases hi : e.identity == identity <;> simp [submissions, Workshop.submit, hi]
    rw [hlast, h.given, callers_moved, sharedBy_set_succ hc rfl rfl he]
  case outcomes =>
    intro identity
    have hlast : ended ({ x with workshop := x.workshop.submit ⟨e, c.message⟩ }.moved v
        { c with handed := c.handed + 1, stage := .activating }) identity = x.ended identity := by
      simp [ended, Workshop.submit, Job.heard?]
    rw [hlast]
    exact h.outcomes identity

/-! ## Steps of others -/

/-- What somebody tells of a registration or a removal keeps an exchange sound. -/
theorem Sound.tell (h : x.Sound n b) {e : Event} (ho : e.isOutcome = false) (ha : e.activation? = none) :
    Sound n b { x with workshop := x.workshop.post none e } := by
  have hevents : (x.workshop.post none e).bus.published = x.events ++ [e] := rfl
  refine { h with workshop := h.workshop.step (.announce e), told := ?_, outcomes := fun identity => ?_ }
  · rw [events, hevents, List.filterMap_append, h.told]
    simp [ha]
  · have hsum := h.outcomes identity
    rw [events, hevents, Exchange.outcomes, List.countP_append, List.countP_singleton, ho]
    exact hsum

theorem outcomes_append (identity : String) (events more : List Event) :
    outcomes identity (events ++ more) = outcomes identity events + outcomes identity more :=
  List.countP_append

/-- What was told of a job is how its send ended, for its identity. -/
theorem outcome_of_heard {j : Job} {e : Event} (h : j.heard? = some e) :
    e.isOutcome = true ∧ e.identity = j.send.registration.identity := by
  rw [Job.heard?] at h
  split at h
  · exact Option.some.inj h ▸ j.send.event_outcome _
  · exact Option.some.inj h ▸ j.send.event_outcome _
  · cases h

/-- The end of a send is no activation. -/
theorem activation?_of_isOutcome {e : Event} (h : e.isOutcome = true) : e.activation? = none := by
  cases e <;> first | rfl | cases h

/-- What was told of a job counts once, for its identity. -/
theorem outcomes_heard (j : Job) (identity : String) :
    outcomes identity j.heard?.toList = (j.send.registration.identity == identity && j.heard?.isSome).toNat := by
  cases hj : j.heard? with
  | none => simp [outcomes]
  | some e =>
    obtain ⟨ho, hidentity⟩ := outcome_of_heard hj
    cases hi : j.send.registration.identity == identity <;> simp [outcomes, ho, hidentity, hi]

end Exchange

/-- What a job does moves it to another stage, and tells of it when it has ended. -/
theorem Workshop.Works.job {w w' : Workshop} (h : w.Works w') :
    ∃ (t : Nat) (s : Send) (before after : JobStage) (told : List Event), w.jobs[t]? = some ⟨s, before⟩ ∧
      w'.jobs = w.jobs.set t ⟨s, after⟩ ∧ w'.bus.published = w.bus.published ++ told ∧
      (Job.heard? ⟨s, before⟩).toList ++ told = (Job.heard? ⟨s, after⟩).toList ∧ told.length ≤ 1 := by
  cases h.step with
  | submit s =>
    have hlength := congrArg List.length h.submitted
    simp [Workshop.submit] at hlength
  | announce e =>
    have hlength := congrArg List.length h.unattached
    simp [Workshop.unattached, Workshop.post] at hlength
  | grant hj hp => exact ⟨_, _, _, _, [], hj, rfl, (List.append_nil _).symm, rfl, Nat.zero_le _⟩
  | call hj => exact ⟨_, _, _, _, [], hj, rfl, (List.append_nil _).symm, rfl, Nat.zero_le _⟩
  | ret o hj => exact ⟨_, _, _, _, [], hj, rfl, (List.append_nil _).symm, rfl, Nat.zero_le _⟩
  | tell hj => exact ⟨_, _, _, _, [_], hj, rfl, rfl, rfl, Nat.le_refl _⟩
  | finish hj hp => exact ⟨_, _, _, _, [], hj, rfl, (List.append_nil _).symm, rfl, Nat.zero_le _⟩

namespace Exchange

variable {n : Nat} {b : Bus} {x x' : Exchange}

/-- A step of a job keeps an exchange sound. -/
theorem Sound.work (h : x.Sound n b) {workshop : Workshop} (hw : x.workshop.Works workshop) : Sound n b { x with workshop } := by
  obtain ⟨t, s, before, after, told, hj, hjobs, hevents, hheard, -⟩ := hw.job
  have hcount (p : Job → Bool) := countP_set_add hj ⟨s, after⟩ p
  refine { h with workshop := h.workshop.step hw.step, told := ?_, given := fun identity => ?_, outcomes := fun identity => ?_ }
  · have hnone : told.filterMap Event.activation? = [] := by
      rw [List.filterMap_eq_nil_iff]
      intro e he
      have hlast : e ∈ (Job.heard? ⟨s, after⟩).toList := hheard ▸ List.mem_append_right _ he
      exact activation?_of_isOutcome (outcome_of_heard (Option.mem_toList.mp hlast)).1
    rw [events, hevents, List.filterMap_append, hnone, List.append_nil]
    exact h.told
  · have hsame := hcount fun j => j.send.registration.identity == identity
    rw [← h.given, submissions, submissions, hjobs]
    exact Nat.add_right_cancel hsame
  · have hended := hcount fun j => j.send.registration.identity == identity && j.heard?.isSome
    have hbefore := outcomes_heard ⟨s, before⟩ identity
    have hafter := outcomes_heard ⟨s, after⟩ identity
    have hsum := h.outcomes identity
    rw [← hheard, outcomes_append] at hafter
    rw [events, hevents, outcomes_append, ended, hjobs]
    rw [events, ended] at hsum
    dsimp only at hbefore hafter hended ⊢
    omega

/-! ## Runs -/

/-- An opened exchange is sound. -/
theorem sound_opened (workers capacity : Nat) (enforce : Bool) : (opened workers capacity enforce).Sound workers ⟨capacity, []⟩ where
  workshop := Workshop.sound_opened workers _
  addressed _ _ he := nomatch he
  fair _ hc := absurd hc List.not_mem_nil
  told := rfl
  reached _ _ ht := absurd ht List.not_mem_nil
  published _ := rfl
  given _ := rfl
  outcomes _ := rfl

/-- A step keeps an exchange sound. -/
theorem Sound.step (h : x.Sound n b) (hstep : x.Step x') : x'.Sound n b := by
  cases hstep with
  | come request => exact h.come request
  | find hc hs ht he => exact h.find hc hs ht he
  | reject hc hs ht he => exact h.reject _ hc hs
  | accept hc hs hall => exact h.accept hc hs hall
  | stamp now hc hs he => exact h.stamp now hc hs he
  | announce hc hs he => exact h.announce hc hs he
  | submit hc hs he => exact h.submit hc hs he
  | work hw => exact h.work hw
  | change hchange => exact h.change hchange
  | tell ho ha => exact h.tell ho ha

/-- A run keeps an exchange sound. -/
theorem Sound.runs (h : x.Sound n b) (hruns : ReflTransGen Step x x') : x'.Sound n b := by
  induction hruns with
  | refl => exact h
  | tail _ hstep ih => exact ih.step hstep

/-- A step publishes one event at most. -/
theorem Step.events (h : x.Step x') : ∃ told, x'.events = x.events ++ told ∧ told.length ≤ 1 := by
  cases h with
  | announce hc hs he => exact ⟨[_], rfl, Nat.le_refl _⟩
  | tell ho ha => exact ⟨[_], rfl, Nat.le_refl _⟩
  | work hw =>
    obtain ⟨_, _, _, _, told, _, _, hevents, _, hone⟩ := hw.job
    exact ⟨told, hevents, hone⟩
  | _ => exact ⟨[], (List.append_nil _).symm, Nat.zero_le _⟩

/-- Everything that was published up to some event is all that was published at some moment of the run. -/
theorem exists_of_prefix (hruns : ReflTransGen Step x x') (hbefore : x.events = []) {events : List Event} (hp : events <+: x'.events) :
    ∃ y, ReflTransGen Step x y ∧ ReflTransGen Step y x' ∧ y.events = events := by
  induction hruns with
  | refl =>
    rw [hbefore, List.prefix_nil] at hp
    exact ⟨x, .refl, .refl, hbefore.trans hp.symm⟩
  | @tail y z hxy hyz ih =>
    have hearlier (h : events <+: y.events) : ∃ y', ReflTransGen Step x y' ∧ ReflTransGen Step y' z ∧ y'.events = events := by
      obtain ⟨y', hxy', hyy', he⟩ := ih h
      exact ⟨y', hxy', hyy'.tail hyz, he⟩
    obtain ⟨told, htold, hone⟩ := hyz.events
    cases told with
    | nil =>
      rw [htold, List.append_nil] at hp
      exact hearlier hp
    | cons e rest =>
      obtain rfl : rest = [] := List.eq_nil_of_length_eq_zero (Nat.le_zero.mp (Nat.le_of_succ_le_succ hone))
      rw [htold, List.prefix_concat_iff] at hp
      rcases hp with he | he
      · exact ⟨z, hxy.tail hyz, .refl, htold.trans he.symm⟩
      · exact hearlier he

end Exchange

end Herald
