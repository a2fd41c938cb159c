import Herald.Journal.Subscriber
import Herald.Proofs.Receipts
import Mathlib.Data.List.Forall2
import Mathlib.Logic.Function.Iterate
import Mathlib.Logic.Relation

/-!
# The journal accounts for every event

The journal takes one step after the other: it looks whether it is told to stop, asks the bus, records what it gets. Between any two of them
events are published, the bus is closed, or the journal is told to stop. What it was handed and what it was told to have lost are, one after
the other, the events that it has gone past (`Tells`), so that its records, the losses it warned of and what still waits for it are together
what was published since it subscribed.

`Journaling.Sound` is what all steps keep. No loss ends the journal, and a closed bus ends it when nothing waits any more.
-/

namespace Herald

open Relation (ReflTransGen)

/-! ## What receipts tell -/

namespace Receipt

/-- The event that was handed over, if one was. -/
def event? : Receipt → Option Event
  | .event e => some e
  | .lagged _ => none

/-- How many events were lost, if some were. -/
def loss? : Receipt → Option Nat
  | .event _ => none
  | .lagged n => some n

end Receipt

/-- How many events were lost, by all receipts together. -/
def missedBy (rs : List Receipt) : Nat :=
  (rs.filterMap Receipt.loss?).foldr Nat.add 0

/-- Whether receipts tell of some events, one after the other: an event is handed over, or it is one of those that are told to be lost. -/
inductive Tells : List Receipt → List Event → Prop
  | nil : Tells [] []
  | event {rs : List Receipt} {es : List Event} (e : Event) (h : Tells rs es) : Tells (.event e :: rs) (e :: es)
  | lagged {rs : List Receipt} {es : List Event} (lost : List Event) (h : Tells rs es) : Tells (.lagged lost.length :: rs) (lost ++ es)

namespace Tells

variable {rs rs' : List Receipt} {es es' : List Event}

/-- Receipts tell of the events of the first and of those of the others. -/
theorem append (h : Tells rs es) (h' : Tells rs' es') : Tells (rs ++ rs') (es ++ es') := by
  induction h with
  | nil => exact h'
  | event e _ ih => exact ih.event e
  | lagged lost _ ih =>
    rw [List.append_assoc]
    exact ih.lagged lost

/-- What was handed over are some of the events, in their order. -/
theorem sublist (h : Tells rs es) : (rs.filterMap Receipt.event?).Sublist es := by
  induction h with
  | nil => exact .slnil
  | event e _ ih => exact ih.cons_cons e
  | lagged lost _ ih => exact ih.trans (List.sublist_append_right lost _)

/-- What was handed over and what was lost are as many as the events. -/
theorem length_eq (h : Tells rs es) : es.length = (rs.filterMap Receipt.event?).length + missedBy rs := by
  induction h with
  | nil => rfl
  | @event rs es e _ ih =>
    have hhanded : (Receipt.event e :: rs).filterMap Receipt.event? = e :: rs.filterMap Receipt.event? := rfl
    have hmissed : missedBy (.event e :: rs) = missedBy rs := rfl
    rw [hhanded, hmissed, List.length_cons, List.length_cons, ih]
    omega
  | @lagged rs es lost _ ih =>
    have hhanded : (Receipt.lagged lost.length :: rs).filterMap Receipt.event? = rs.filterMap Receipt.event? := rfl
    have hmissed : missedBy (.lagged lost.length :: rs) = lost.length + missedBy rs := rfl
    rw [hhanded, hmissed, List.length_append, ih]
    omega

/-- Events that are handed over are told of. -/
theorem map_event (es : List Event) : Tells (es.map .event) es := by
  induction es with
  | nil => exact .nil
  | cons e es ih => exact ih.event e

end Tells

namespace Bus

variable {b : Bus} {position next : Nat} {r : Receipt}

/-- A receipt tells of the events that it takes the subscriber past. -/
theorem tells_of_receive (h : b.receive position = some (r, next)) :
    position ≤ next ∧ Tells [r] ((b.published.take next).drop position) := by
  unfold receive at h
  split at h
  · next hlag =>
    obtain ⟨rfl, rfl⟩ := Prod.mk.inj (Option.some.inj h)
    have hlength : ((b.published.take b.oldest).drop position).length = b.oldest - position := by
      have hsize : b.oldest ≤ b.published.length := Nat.sub_le _ _
      rw [List.length_drop, List.length_take, Nat.min_eq_left hsize]
    have htells := Tells.nil.lagged ((b.published.take b.oldest).drop position)
    rw [hlength, List.append_nil] at htells
    exact ⟨Nat.le_of_lt hlag, htells⟩
  · obtain ⟨e, he, hpair⟩ := Option.map_eq_some_iff.mp h
    obtain ⟨rfl, rfl⟩ := Prod.mk.inj hpair
    obtain ⟨hlt, rfl⟩ := List.getElem?_eq_some_iff.mp he
    refine ⟨Nat.le_succ _, ?_⟩
    rw [List.take_succ_eq_append_getElem hlt, List.drop_append_of_le_length (by rw [List.length_take]; omega),
      List.drop_eq_nil_of_le (by rw [List.length_take]; omega)]
    exact Tells.nil.event _

/-- All that a subscriber gets tells of everything after its position, also of what the bus does not keep any more. -/
theorem tells_receiveAll (b : Bus) (position : Nat) : Tells (b.receiveAll position).1 (b.published.drop position) := by
  by_cases hlag : position < b.oldest
  · have hsize : b.oldest ≤ b.published.length := Nat.sub_le _ _
    have hlength : ((b.published.drop position).take (b.oldest - position)).length = b.oldest - position := by
      rw [List.length_take, List.length_drop]
      omega
    have hsplit : b.published.drop position = (b.published.drop position).take (b.oldest - position) ++ b.published.drop b.oldest := by
      conv_lhs => rw [← List.take_append_drop (b.oldest - position) (b.published.drop position)]
      rw [List.drop_drop, Nat.add_sub_cancel' (Nat.le_of_lt hlag)]
    have htells := (Tells.map_event (b.published.drop b.oldest)).lagged ((b.published.drop position).take (b.oldest - position))
    rw [hlength, ← hsplit] at htells
    rw [receiveAll, if_pos hlag, Nat.max_eq_right (Nat.le_of_lt hlag)]
    exact htells
  · rw [receiveAll, if_neg hlag, Nat.max_eq_left (Nat.le_of_not_lt hlag)]
    exact Tells.map_event _

end Bus

/-! ## The steps of a journal -/

/-- Where a journal stands. -/
inductive Journaling.Stage
  | subscribed
  | looking
  | receiving
  | ended (how : Journal.End)
  deriving DecidableEq, Repr

/-- A journal with the bus that it reads, and what became of it: its log, and the receipts that it got since it subscribed. -/
structure Journaling where
  bus : Bus
  position : Nat
  stage : Journaling.Stage := .subscribed
  log : List LogRecord := []
  received : List Receipt := []
  signalled : Bool := false
  closed : Bool := false
  deriving Repr

namespace Journaling

/-- A journal that subscribed to a bus on which some events were published before. -/
def subscribed (capacity : Nat) (earlier : List Event) : Journaling where
  bus := (Bus.ofCapacity capacity).publishAll earlier
  position := earlier.length

/-- Ends the journal. -/
def finish (x : Journaling) (how : Journal.End) : Journaling :=
  { x with stage := .ended how, log := x.log ++ [Journal.ended how] }

/-- Records a receipt, after which the journal looks again. -/
def record (x : Journaling) (r : Receipt) (next : Nat) : Journaling :=
  { x with position := next, stage := .looking, log := x.log ++ [Journal.recordReceipt r], received := x.received ++ [r] }

/-- The next step of the journal. Whether it is told to stop is looked at before what waits; when nothing waits it looks again. -/
def advance (x : Journaling) : Journaling :=
  match x.stage with
  | .subscribed => { x with stage := .looking, log := x.log ++ [Journal.started] }
  | .looking => if x.signalled then x.finish .shutdown else { x with stage := .receiving }
  | .receiving =>
    match x.bus.receive x.position with
    | some (r, next) => x.record r next
    | none => if x.closed then x.finish .closed else { x with stage := .looking }
  | .ended _ => x

/-- An event is published. -/
def publish (x : Journaling) (e : Event) : Journaling :=
  { x with bus := x.bus.publish e }

/-- The journal is told to stop. -/
def signal (x : Journaling) : Journaling :=
  { x with signalled := true }

/-- The bus is closed. -/
def close (x : Journaling) : Journaling :=
  { x with closed := true }

/-- What can happen next. Nothing is published on a closed bus. -/
inductive Step : Journaling → Journaling → Prop
  | own (x : Journaling) : Step x x.advance
  | publish (x : Journaling) (e : Event) (h : x.closed = false) : Step x (x.publish e)
  | signal (x : Journaling) : Step x x.signal
  | close (x : Journaling) : Step x x.close

/-- A number of steps of the journal is a run. -/
theorem run_iterate (n : Nat) (x : Journaling) : ReflTransGen Step x (advance^[n] x) := by
  induction n with
  | zero => exact .refl
  | succ n ih =>
    rw [Function.iterate_succ_apply']
    exact ih.tail (.own _)

/-! ## What all steps keep -/

/-- The log of a journal that got some receipts. -/
def written (received : List Receipt) : Stage → List LogRecord
  | .subscribed => []
  | .looking => Journal.started :: received.map Journal.recordReceipt
  | .receiving => Journal.started :: received.map Journal.recordReceipt
  | .ended how => Journal.started :: received.map Journal.recordReceipt ++ [Journal.ended how]

/-- What is the case when a journal ends: it was told to, or the bus is closed and everything on it was got. -/
def Warrants (x : Journaling) : Journal.End → Prop
  | .shutdown => x.signalled = true
  | .closed => x.closed = true ∧ x.position = x.bus.size

/-- What holds at every moment of a journal that subscribed after some events: its receipts tell of what was published between them and
its position, and its log is that of its receipts. -/
structure Sound (earlier : List Event) (x : Journaling) : Prop where
  starts : earlier <+: x.bus.published
  earlier_le : earlier.length ≤ x.position
  position_le : x.position ≤ x.bus.size
  tells : Tells x.received ((x.bus.published.take x.position).drop earlier.length)
  log_eq : x.log = written x.received x.stage
  fresh : x.stage = .subscribed → x.received = []
  warranted : ∀ how, x.stage = .ended how → x.Warrants how

namespace Sound

variable {earlier : List Event} {x y : Journaling}

/-- It holds of a journal that has subscribed. -/
theorem subscribed (capacity : Nat) (earlier : List Event) : Sound earlier (Journaling.subscribed capacity earlier) where
  starts := List.prefix_rfl
  earlier_le := Nat.le_refl _
  position_le := Nat.le_refl _
  tells := by
    rw [Journaling.subscribed, Bus.publishAll, Bus.ofCapacity, List.nil_append, List.take_length, List.drop_length]
    exact .nil
  log_eq := rfl
  fresh _ := rfl
  warranted how h := nomatch h

/-- A receipt that is recorded keeps it. -/
theorem record (hx : Sound earlier x) {r : Receipt} {next : Nat} (hstage : x.stage = .receiving)
    (hr : x.bus.receive x.position = some (r, next)) : Sound earlier (x.record r next) where
  starts := hx.starts
  earlier_le := Nat.le_trans hx.earlier_le (Bus.tells_of_receive hr).1
  position_le := Bus.next_le_of_receive hr
  tells := by
    obtain ⟨hle, htells⟩ := Bus.tells_of_receive hr
    have hsplit : x.bus.published.take next = x.bus.published.take x.position ++ (x.bus.published.take next).drop x.position := by
      conv_lhs => rw [← List.take_append_drop x.position (x.bus.published.take next)]
      rw [List.take_take, Nat.min_eq_left hle]
    have hlength : earlier.length ≤ (x.bus.published.take x.position).length := by
      rw [List.length_take]
      exact Nat.le_min.mpr ⟨hx.earlier_le, Nat.le_trans hx.earlier_le hx.position_le⟩
    change Tells (x.received ++ [r]) ((x.bus.published.take next).drop earlier.length)
    rw [hsplit, List.drop_append_of_le_length hlength]
    exact hx.tells.append htells
  log_eq := by
    change x.log ++ [Journal.recordReceipt r] = Journal.started :: (x.received ++ [r]).map Journal.recordReceipt
    rw [hx.log_eq, hstage, written, List.map_append, List.map_singleton, List.cons_append]
  fresh h := nomatch h
  warranted how h := nomatch h

/-- A journal that ends keeps it if the end is warranted. -/
theorem finish (hx : Sound earlier x) {how : Journal.End} (hstage : x.stage = .looking ∨ x.stage = .receiving) (h : x.Warrants how) :
    Sound earlier (x.finish how) where
  starts := hx.starts
  earlier_le := hx.earlier_le
  position_le := hx.position_le
  tells := hx.tells
  log_eq := by
    change x.log ++ [Journal.ended how] = Journal.started :: x.received.map Journal.recordReceipt ++ [Journal.ended how]
    rcases hstage with hs | hs <;> rw [hx.log_eq, hs, written]
  fresh h := nomatch h
  warranted how' h' := by
    obtain rfl := Stage.ended.inj h'
    cases how <;> exact h

/-- A journal that only comes to stand elsewhere keeps it if its log is the one that is written by then. -/
theorem come (hx : Sound earlier x) {stage : Stage} {log : List LogRecord} (hstage : stage = .looking ∨ stage = .receiving)
    (hlog : log = written x.received stage) : Sound earlier { x with stage := stage, log := log } where
  starts := hx.starts
  earlier_le := hx.earlier_le
  position_le := hx.position_le
  tells := hx.tells
  log_eq := hlog
  fresh h := by
    rcases hstage with rfl | rfl <;> exact nomatch h
  warranted how h := by
    rcases hstage with rfl | rfl <;> exact nomatch h

/-- A step of the journal keeps it. -/
theorem advance (hx : Sound earlier x) : Sound earlier x.advance := by
  unfold Journaling.advance
  split
  · next hs =>
    refine hx.come (.inl rfl) ?_
    rw [hx.log_eq, hs, hx.fresh hs]
    rfl
  · next hs =>
    split
    · next hsignal => exact hx.finish (.inl hs) hsignal
    · exact hx.come (.inr rfl) (by rw [hx.log_eq, hs]; rfl)
  · next hs =>
    split
    · next r next hr => exact hx.record hs hr
    · next hr =>
      split
      · next hclosed => exact hx.finish (.inr hs) ⟨hclosed, Nat.le_antisymm hx.position_le (Bus.size_le_of_receive_none hr)⟩
      · exact hx.come (.inl rfl) (by rw [hx.log_eq, hs]; rfl)
  · exact hx

/-- Publishing keeps it, as long as the bus is open. -/
theorem publish (hx : Sound earlier x) (e : Event) (hopen : x.closed = false) : Sound earlier (x.publish e) where
  starts := hx.starts.trans (List.prefix_append _ _)
  earlier_le := hx.earlier_le
  position_le := by
    have hle := hx.position_le
    rw [Journaling.publish, Bus.publish, Bus.size, List.length_append]
    exact Nat.le_add_right_of_le hle
  tells := by
    have hle : x.position ≤ x.bus.published.length := hx.position_le
    rw [Journaling.publish, Bus.publish, List.take_append_of_le_length hle]
    exact hx.tells
  log_eq := hx.log_eq
  fresh := hx.fresh
  warranted how h := by
    have hend := hx.warranted how h
    cases how with
    | shutdown => exact hend
    | closed => exact absurd hend.1 (by rw [hopen]; exact Bool.false_ne_true)

/-- Telling the journal to stop keeps it. -/
theorem signal (hx : Sound earlier x) : Sound earlier x.signal where
  __ := hx
  warranted how h := by
    have hend := hx.warranted how h
    cases how with
    | shutdown => rfl
    | closed => exact hend

/-- Closing the bus keeps it. -/
theorem close (hx : Sound earlier x) : Sound earlier x.close where
  __ := hx
  warranted how h := by
    have hend := hx.warranted how h
    cases how with
    | shutdown => exact hend
    | closed => exact ⟨rfl, hend.2⟩

/-- A step keeps it. -/
theorem step (h : Step x y) (hx : Sound earlier x) : Sound earlier y := by
  cases h with
  | own => exact hx.advance
  | publish e hopen => exact hx.publish e hopen
  | signal => exact hx.signal
  | close => exact hx.close

/-- A run keeps it. -/
theorem of_run (h : ReflTransGen Step x y) (hx : Sound earlier x) : Sound earlier y := by
  induction h with
  | refl => exact hx
  | tail _ h ih => exact ih.step h

end Sound

/-! ## What the journal comes to when it is left alone -/

section Alone

variable {earlier : List Event} {x : Journaling}

section Going

variable (hx : Sound earlier x) (hsignal : x.signalled = false) (hgoing : ∀ how, x.stage ≠ .ended how)
include hx hsignal hgoing

/-- A journal that is not told to stop and has not ended comes to ask the bus. -/
theorem exists_receiving : ∃ n, advance^[n] x =
    { x with stage := .receiving, log := written x.received .receiving } := by
  obtain ⟨bus, position, stage, log, received, signalled, closed⟩ := x
  obtain rfl : signalled = false := hsignal
  obtain rfl : log = written received stage := hx.log_eq
  cases stage with
  | subscribed =>
    obtain rfl : received = [] := hx.fresh rfl
    exact ⟨2, rfl⟩
  | looking => exact ⟨1, rfl⟩
  | receiving => exact ⟨0, rfl⟩
  | ended how => exact absurd rfl (hgoing how)

/-- It then records what it gets next, be it an event or a loss, and looks again. -/
theorem exists_recorded {r : Receipt} {next : Nat} (hr : x.bus.receive x.position = some (r, next)) :
    ∃ n, advance^[n] x =
      { x with stage := .looking, position := next, received := x.received ++ [r], log := written (x.received ++ [r]) .looking } := by
  obtain ⟨n, hn⟩ := exists_receiving hx hsignal hgoing
  refine ⟨n + 1, ?_⟩
  rw [Function.iterate_succ_apply', hn]
  simp only [advance, hr, record, written, List.map_append, List.map_singleton, List.cons_append]

/-- In the end it has got everything that waited. -/
theorem exists_caught_up :
    ∃ n, advance^[n] x =
      { x with
        stage := .receiving
        position := x.bus.size
        received := x.received ++ (x.bus.receiveAll x.position).1
        log := written (x.received ++ (x.bus.receiveAll x.position).1) .receiving } := by
  generalize hrs : (x.bus.receiveAll x.position).1 = rs
  -- on what waits: when its first receipt is recorded, the others wait at the next position
  induction rs generalizing x with
  | nil =>
    obtain ⟨n, hn⟩ := exists_receiving hx hsignal hgoing
    cases hr : x.bus.receive x.position with
    | none =>
      have hposition : x.bus.size = x.position := Nat.le_antisymm (Bus.size_le_of_receive_none hr) hx.position_le
      refine ⟨n, ?_⟩
      rw [hn, List.append_nil, hposition]
    | some got =>
      rw [Bus.receiveAll_of_receive hr] at hrs
      exact absurd hrs (List.cons_ne_nil _ _)
  | cons r rs ih =>
    cases hr : x.bus.receive x.position with
    | none =>
      rw [Bus.receiveAll_of_receive_none hr] at hrs
      exact absurd hrs.symm (List.cons_ne_nil _ _)
    | some got =>
      obtain ⟨r', next⟩ := got
      rw [Bus.receiveAll_of_receive hr] at hrs
      obtain ⟨rfl, hrest⟩ := List.cons.inj hrs
      obtain ⟨n, hn⟩ := exists_recorded hx hsignal hgoing hr
      have hsound : Sound earlier (advance^[n] x) := Sound.of_run (run_iterate n x) hx
      rw [hn] at hsound
      obtain ⟨m, hm⟩ := ih hsound hsignal (fun _ => Stage.noConfusion) hrest
      refine ⟨m + n, ?_⟩
      rw [Function.iterate_add_apply, hn, hm]
      simp only [List.append_assoc, List.singleton_append]

/-- A journal that has caught up on a closed bus ends. -/
theorem exists_ended (hclosed : x.closed = true) :
    ∃ n, advance^[n] x =
      { x with
        stage := .ended .closed
        position := x.bus.size
        received := x.received ++ (x.bus.receiveAll x.position).1
        log := written (x.received ++ (x.bus.receiveAll x.position).1) (.ended .closed) } := by
  obtain ⟨n, hn⟩ := exists_caught_up hx hsignal hgoing
  refine ⟨n + 1, ?_⟩
  rw [Function.iterate_succ_apply', hn]
  simp only [advance, Bus.receive_size, hclosed, if_true, finish, written]

end Going

/-- When the bus is closed before the journal starts, what its steps write is its run in one go. -/
theorem exists_log_eq_run (hx : Sound earlier x) (hsignal : x.signalled = false) (hstage : x.stage = .subscribed)
    (hclosed : x.closed = true) : ∃ n, (advance^[n] x).log = Journal.run x.bus x.position .closed := by
  obtain ⟨n, hn⟩ := exists_ended hx hsignal (fun how => by rw [hstage]; exact Stage.noConfusion) hclosed
  refine ⟨n, ?_⟩
  rw [hn, hx.fresh hstage, List.nil_append]
  rfl

/-- When the journal is told to stop once it has caught up on an open bus, what it writes is its run in one go with that end. -/
theorem exists_log_eq_run_of_signal (hx : Sound earlier x) (hsignal : x.signalled = false) (hstage : x.stage = .subscribed)
    (hopen : x.closed = false) : ∃ n, (advance^[n] x).signal.advance.log = Journal.run x.bus x.position .shutdown := by
  obtain ⟨n, hn⟩ := exists_caught_up hx hsignal fun how => by rw [hstage]; exact Stage.noConfusion
  refine ⟨n + 1, ?_⟩
  rw [Function.iterate_succ_apply', hn, hx.fresh hstage, List.nil_append]
  simp only [advance, Bus.receive_size, hopen, Bool.false_eq_true, if_false, signal, if_true, finish, written]
  rfl

/-- When it is told to stop before it starts, it writes nothing else. -/
theorem log_eq_runStopped (hx : Sound earlier x) (hsignal : x.signalled = true) (hstage : x.stage = .subscribed) :
    x.advance.advance.log = Journal.runStopped := by
  have hlog : x.log = [] := by rw [hx.log_eq, hstage, written]
  simp only [advance, hstage, hsignal, if_true, finish, hlog]
  rfl

end Alone

end Journaling

/-! ## The records of the log -/

namespace Journal

/-- Which record notes an event. A target that comes or goes is told of, an activation and a delivery are details, and a delivery that fails
is a warning with what went wrong. -/
inductive Notes : Event → LogRecord → Prop
  | registered (identity : String) :
    Notes (.registered identity) ⟨.info, "Notify target registered", [("target_id", identity)]⟩
  | removed (identity : String) :
    Notes (.removed identity) ⟨.info, "Notify target removed", [("target_id", identity)]⟩
  | activated (identity : String) (t : Instant) :
    Notes (.activated identity t) ⟨.debug, "Notify target activated", [("target_id", identity), ("at", t.renderOffset)]⟩
  | sendSucceeded (identity : String) :
    Notes (.sendSucceeded identity) ⟨.debug, "Notification delivered", [("target_id", identity)]⟩
  | sendFailed (identity error : String) :
    Notes (.sendFailed identity error) ⟨.warn, "Notification delivery failed", [("target_id", identity), ("error", error)]⟩

/-- A record notes an event if it is the one that the journal writes of it. -/
theorem notes_iff {e : Event} {r : LogRecord} : Notes e r ↔ r = recordOf e := by
  constructor
  · intro h
    cases h <;> rfl
  · rintro rfl
    cases e with
    | registered identity => exact .registered identity
    | removed identity => exact .removed identity
    | activated identity t => exact .activated identity t
    | sendSucceeded identity => exact .sendSucceeded identity
    | sendFailed identity error => exact .sendFailed identity error

/-- Whether a record tells of an event, which only those with fields do. -/
def isOfEvent (r : LogRecord) : Bool :=
  !r.fields.isEmpty

/-- Whether a record warns of a loss, which only the warnings without fields do. -/
def isOfLoss (r : LogRecord) : Bool :=
  r.level == .warn && r.fields.isEmpty

/-- The record of an event tells of an event, whatever its level is. -/
theorem isOf_recordOf (e : Event) : isOfEvent (recordOf e) = true ∧ isOfLoss (recordOf e) = false := by
  cases e <;> exact ⟨rfl, rfl⟩

/-- The records of events among those of some receipts are those of the events that were handed over. -/
theorem filter_isOfEvent (rs : List Receipt) :
    (rs.map recordReceipt).filter isOfEvent = (rs.filterMap Receipt.event?).map recordOf := by
  induction rs with
  | nil => rfl
  | cons r rs ih =>
    cases r with
    | event e =>
      rw [List.map_cons, recordReceipt, List.filter_cons_of_pos (isOf_recordOf e).1, ih]
      rfl
    | lagged n =>
      rw [List.map_cons, List.filter_cons_of_neg Bool.false_ne_true, ih]
      rfl

/-- The warnings among them are those of the losses. -/
theorem filter_isOfLoss (rs : List Receipt) :
    (rs.map recordReceipt).filter isOfLoss = (rs.filterMap Receipt.loss?).map fun n => recordReceipt (.lagged n) := by
  induction rs with
  | nil => rfl
  | cons r rs ih =>
    cases r with
    | event e =>
      rw [List.map_cons, recordReceipt, List.filter_cons_of_neg (by rw [(isOf_recordOf e).2]; exact Bool.false_ne_true), ih]
      rfl
    | lagged n =>
      rw [List.map_cons, List.filter_cons_of_pos rfl, ih]
      rfl

end Journal

namespace Journaling

/-- What the journal writes of itself is not among the records of a kind if that kind has none of these. -/
theorem filter_written {p : LogRecord → Bool} (hstarted : p Journal.started = false) (hended : ∀ how, p (Journal.ended how) = false)
    {rs : List Receipt} {stage : Stage} (hfresh : stage = .subscribed → rs = []) :
    (written rs stage).filter p = (rs.map Journal.recordReceipt).filter p := by
  cases stage with
  | subscribed =>
    obtain rfl := hfresh rfl
    rfl
  | looking => exact List.filter_cons_of_neg (by rw [hstarted]; exact Bool.false_ne_true)
  | receiving => exact List.filter_cons_of_neg (by rw [hstarted]; exact Bool.false_ne_true)
  | ended how =>
    have hlast : [Journal.ended how].filter p = [] := List.filter_cons_of_neg (by rw [hended]; exact Bool.false_ne_true)
    rw [written, List.filter_append, hlast, List.append_nil]
    exact List.filter_cons_of_neg (by rw [hstarted]; exact Bool.false_ne_true)

/-- At every moment, whatever was published and whenever the journal was told to stop or the bus closed, the journal accounts for every
event since it subscribed. Its log is that of what it received: the records of events note the events it was handed, one each, in the order
in which they were published, and the warnings are those of the losses it was told of. The events behind its position are as many as its
records and its losses; those before it wait, to be got or to be told as lost. It ends when it was told to stop, or when the bus is closed
and nothing waits. Until then it goes on after every receipt, also after a loss, and on a closed bus it ends with everything that waited in
its log. -/
theorem accounts_for_every_event {capacity : Nat} {earlier : List Event} {x : Journaling}
    (hx : ReflTransGen Step (subscribed capacity earlier) x) :
    (x.log = written x.received x.stage ∧
      List.Forall₂ Journal.Notes (x.received.filterMap Receipt.event?) (x.log.filter Journal.isOfEvent) ∧
      x.log.filter Journal.isOfLoss = (x.received.filterMap Receipt.loss?).map fun n =>
        ⟨.warn, "LoggingSubscriber lagged behind and missed " ++ toString n ++ " events.", []⟩) ∧
    (∃ past waiting, x.bus.published = earlier ++ past ++ waiting ∧ x.bus.published.drop x.position = waiting ∧
      Tells x.received past ∧ (x.received.filterMap Receipt.event?).Sublist past ∧ Tells (x.bus.receiveAll x.position).1 waiting ∧
      (past ++ waiting).length = (x.log.filter Journal.isOfEvent).length + missedBy x.received + waiting.length) ∧
    (∀ how, x.stage = .ended how → x.Warrants how) ∧
    (x.signalled = false → (∀ how, x.stage ≠ .ended how) →
      (∀ r next, x.bus.receive x.position = some (r, next) → ∃ n, advance^[n] x =
        { x with stage := .looking, position := next, received := x.received ++ [r], log := written (x.received ++ [r]) .looking }) ∧
      (x.closed = true → ∃ n, advance^[n] x =
        { x with
          stage := .ended .closed
          position := x.bus.size
          received := x.received ++ (x.bus.receiveAll x.position).1
          log := written (x.received ++ (x.bus.receiveAll x.position).1) (.ended .closed) })) := by
  have hsound := Sound.of_run hx (.subscribed capacity earlier)
  have hevents : x.log.filter Journal.isOfEvent = (x.received.filterMap Receipt.event?).map Journal.recordOf := by
    rw [hsound.log_eq, filter_written rfl (fun how => by cases how <;> rfl) hsound.fresh, Journal.filter_isOfEvent]
  have hlosses : x.log.filter Journal.isOfLoss = (x.received.filterMap Receipt.loss?).map fun n => Journal.recordReceipt (.lagged n) := by
    rw [hsound.log_eq, filter_written rfl (fun how => by cases how <;> rfl) hsound.fresh, Journal.filter_isOfLoss]
  have hnotes : List.Forall₂ Journal.Notes (x.received.filterMap Receipt.event?) (x.log.filter Journal.isOfEvent) := by
    rw [hevents, List.forall₂_map_right_iff, List.forall₂_same]
    exact fun e _ => Journal.notes_iff.mpr rfl
  refine ⟨⟨hsound.log_eq, hnotes, hlosses⟩, ⟨_, _, ?_, rfl, hsound.tells, hsound.tells.sublist, Bus.tells_receiveAll _ _, ?_⟩,
    hsound.warranted, fun hsignal hgoing => ⟨fun r next hr => ?_, exists_ended hsound hsignal hgoing⟩⟩
  · -- what was published is what was before, what was gone past and what waits
    have hfront : earlier <+: x.bus.published.take x.position :=
      List.prefix_take_iff.mpr ⟨hsound.starts, hsound.earlier_le⟩
    rw [List.prefix_iff_eq_append.mp hfront, List.take_append_drop]
  · rw [List.length_append, hsound.tells.length_eq, hevents, List.length_map]
  · exact exists_recorded hsound hsignal hgoing hr

/-- A journal on a bus for one event. Two were published before it asked, and the bus was closed; it was told of the loss of the first. -/
def late : Journaling :=
  let asking := (subscribed 1 [.registered "pager"]).advance
  ((asking.publish (.activated "pager" .epoch)).publish (.sendSucceeded "pager")).close.advance.advance

/-- It has one loss and one event that waits, which it records before it ends. What was published before it subscribed is of no account. -/
theorem late_goes_on_after_a_loss :
    (∃ past waiting, late.bus.published = [.registered "pager"] ++ past ++ waiting ∧ (past ++ waiting).length = 0 + 1 + waiting.length) ∧
    (∃ n, advance^[n] late =
      { late with
        stage := .ended .closed
        position := 3
        received := [.lagged 1, .event (.sendSucceeded "pager")]
        log := [Journal.started, ⟨.warn, "LoggingSubscriber lagged behind and missed 1 events.", []⟩,
          ⟨.debug, "Notification delivered", [("target_id", "pager")]⟩, Journal.ended .closed] }) := by
  have hrun : ReflTransGen Step (subscribed 1 [.registered "pager"]) late :=
    (((((ReflTransGen.single (.own _)).tail (.publish _ _ rfl)).tail (.publish _ _ rfl)).tail (.close _)).tail (.own _)).tail (.own _)
  have hrecords : late.log.filter Journal.isOfEvent = [] := by cbv
  have hmissed : missedBy late.received = 1 := by cbv
  have hgot : late.received ++ (late.bus.receiveAll late.position).1 = [.lagged 1, .event (.sendSucceeded "pager")] := by cbv
  have hsize : late.bus.size = 3 := by cbv
  have hgoes : late.signalled = false ∧ late.stage = .looking ∧ late.closed = true := by cbv
  obtain ⟨-, ⟨past, waiting, hpublished, -, -, -, -, hlength⟩, -, hgoing⟩ := accounts_for_every_event hrun
  rw [hrecords, hmissed] at hlength
  obtain ⟨n, hn⟩ := (hgoing hgoes.1 fun how => by rw [hgoes.2.1]; exact Stage.noConfusion).2 hgoes.2.2
  rw [hgot, hsize] at hn
  exact ⟨⟨past, waiting, hpublished, hlength⟩, n, hn⟩

end Journaling

end Herald
