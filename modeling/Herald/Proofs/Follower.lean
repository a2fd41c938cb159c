import Herald.Proofs.Flush
import Herald.Proofs.Receipts
import Herald.Proofs.Traffic

/-!
# The run of the persister, step by step

What the persister does between its start and its return, in steps that anything may come in between: it handles one receipt of the bus,
asks the registry for the activations, one place after the other, records one of them, or takes one step of a flush. The order in which
the places are asked is any. What it was told is noted: the activations it received, those that the registry had when it last began to
ask, the stamps given to registered targets until then, and the answers.

`Follower.Sound` is what all steps keep. Each stage says how much of what was asked is in the store already, and how far the store is in
the backend.
-/

namespace Herald

/-! ## What a store has at least -/

/-- Whether the activation that a store has for an identity is at least some time. -/
def Store.Reaches (s : Store) (identity : String) (t : Instant) : Prop :=
  ∃ t', s.restored identity = some t' ∧ t ≤ t'

/-- What is reached is more than anything lower. -/
theorem Store.Reaches.of_le {s : Store} {identity : String} {t u : Instant} (h : s.Reaches identity t) (hle : u ≤ t) :
    s.Reaches identity u := by
  obtain ⟨last, hlast, hle'⟩ := h
  exact ⟨last, hlast, Std.le_trans hle hle'⟩

/-- What was recorded is reached. -/
theorem Store.reaches_record (s : Store) (identity : String) (t : Instant) : (s.record identity t).2.Reaches identity t := by
  rw [Reaches, restored_record, if_pos rfl, Instant.latest_some]
  refine ⟨_, rfl, ?_⟩
  cases s.restored identity with
  | none => exact Std.le_refl t
  | some last => exact Instant.le_later_left t last

/-- What was reached stays reached when something is recorded. -/
theorem Store.Reaches.record {s : Store} {identity : String} {t : Instant} (h : s.Reaches identity t) (recorded : String) (u : Instant) :
    (s.record recorded u).2.Reaches identity t := by
  obtain ⟨last, hlast, hle⟩ := h
  rw [Reaches, restored_record]
  by_cases hi : identity = recorded
  · subst hi
    rw [if_pos rfl, hlast]
    exact ⟨_, rfl, Std.le_trans hle (Instant.le_later_left last u)⟩
  · rw [if_neg hi]
    exact ⟨last, hlast, hle⟩

/-- Recording what is reached has no effect, and says so. -/
theorem Store.Reaches.record_eq {s : Store} {identity : String} {t : Instant} (h : s.Reaches identity t) :
    s.record identity t = (false, s) := by
  obtain ⟨last, hlast, hle⟩ := h
  rw [Store.record, hlast]
  exact if_pos hle

/-- Recording what is not reached puts it there, sets the mark, and says so. -/
theorem Store.record_of_not_reaches {s : Store} {identity : String} {t : Instant} (h : ¬s.Reaches identity t) :
    s.record identity t = (true, ⟨s.targets.insert identity t, true⟩) := by
  rw [Store.record]
  cases hr : s.restored identity with
  | none => rfl
  | some last =>
    have hle : ¬t ≤ last := fun hle => h ⟨last, hr, hle⟩
    exact if_neg hle

/-- Records of what is reached have no effect together. -/
theorem Store.sync_of_reaches {s : Store} {activations : List (String × Instant)} (h : ∀ a ∈ activations, s.Reaches a.1 a.2) :
    s.sync activations = s := by
  induction activations with
  | nil => rfl
  | cons a rest ih =>
    obtain ⟨ha, hrest⟩ := List.forall_mem_cons.mp h
    rw [Store.sync, List.foldl_cons, ha.record_eq]
    exact ih hrest

/-- What a store has after a record was there before or was recorded. -/
theorem Store.restored_record_cases {s : Store} {recorded identity : String} {u t : Instant}
    (h : (s.record recorded u).2.restored identity = some t) : s.restored identity = some t ∨ identity = recorded ∧ t = u := by
  rw [restored_record] at h
  by_cases hi : identity = recorded
  · subst hi
    rw [if_pos rfl, Instant.latest_some] at h
    obtain rfl := Option.some.inj h
    cases hlast : s.restored identity with
    | none => exact .inr ⟨rfl, rfl⟩
    | some last =>
      rw [Instant.raised, Instant.later]
      split
      · exact .inl rfl
      · exact .inr ⟨rfl, rfl⟩
  · rw [if_neg hi] at h
    exact .inl h

namespace Flushing

/-- A flush leaves the targets of the store. -/
theorem targets_step_of_flush {a : FlushAction} {refusal : Option StateFile.Refusal} (ha : a ∈ flush refusal) (x : Flushing) :
    (x.step a).store.targets = x.store.targets := by
  simp only [flush, List.mem_cons, List.not_mem_nil, or_false] at ha
  rcases ha with rfl | rfl | rfl | rfl
  · rw [step]
    split
    · split <;> rfl
    · rfl
  · rw [step]
    split <;> rfl
  · rw [step]
    split <;> rfl
  · rw [step]
    split <;> rfl

/-- What a flush has come to, by the steps that are left of it. Until the save, the mark is off or there was none; a failed save puts it
back, so a flush that returns without a failure leaves the store without the mark. -/
def Phase (x : Flushing) (saved : Bool) : List FlushAction → Prop
  | [.clear, .take, .save _, .settle] => x.progress = .idle
  | [.take, .save _, .settle] => x.store.dirty = false ∧ (x.progress = .idle ∨ x.progress = .cleared)
  | [.save _, .settle] => x.store.dirty = false ∧ (x.progress = .idle ∨ ∃ s, x.progress = .saving s)
  | [.settle] => x.progress = .failed ∨ x.progress = .idle ∧ x.store.dirty = false
  | [] => x.progress = .idle ∧ (saved = true → x.store.dirty = false)
  | _ => False

/-- A step of a flush comes to the next phase. The flush succeeds if it does not come to its last step with a failed save. -/
theorem Phase.step {x : Flushing} {saved : Bool} {a : FlushAction} {left : List FlushAction} (h : x.Phase saved (a :: left)) :
    (x.step a).Phase (x.progress != .failed) left := by
  unfold Phase at h
  split at h
  · next heq =>
    -- the mark is taken off, or there is none
    obtain ⟨rfl, rfl⟩ := List.cons.inj heq
    change (x.step .clear).store.dirty = false ∧ _
    simp only [Flushing.step, h]
    split
    · exact ⟨rfl, .inr rfl⟩
    · next hd => exact ⟨Bool.eq_false_iff.mpr hd, .inl h⟩
  · next heq =>
    -- the snapshot is taken
    obtain ⟨rfl, rfl⟩ := List.cons.inj heq
    obtain ⟨hclean, hp | hp⟩ := h
    · simp only [Flushing.step, hp]
      exact ⟨hclean, .inl hp⟩
    · simp only [Flushing.step, hp]
      exact ⟨hclean, .inr ⟨_, rfl⟩⟩
  · next heq =>
    -- the snapshot is saved, or the save fails
    obtain ⟨rfl, rfl⟩ := List.cons.inj heq
    obtain ⟨hclean, hp | ⟨s, hp⟩⟩ := h
    · simp only [Flushing.step, hp]
      exact .inr ⟨hp, hclean⟩
    · simp only [Flushing.step, hp]
      split
      · exact .inr ⟨rfl, hclean⟩
      · exact .inl rfl
  · next heq =>
    -- a failed save puts the mark back
    obtain ⟨rfl, rfl⟩ := List.cons.inj heq
    rcases h with hp | ⟨hp, hclean⟩
    · simp only [Flushing.step, hp]
      exact ⟨rfl, fun hsaved => absurd hsaved Bool.false_ne_true⟩
    · simp only [Flushing.step, hp]
      exact ⟨hp, fun _ => hclean⟩
  · next heq => exact absurd heq (List.cons_ne_nil a left)
  · exact h.elim

/-- The steps that are left of a flush are steps of a flush. -/
theorem Phase.mem_flush {x : Flushing} {saved : Bool} {a : FlushAction} {left : List FlushAction} (h : x.Phase saved (a :: left)) :
    ∃ refusal, a ∈ flush refusal := by
  unfold Phase at h
  split at h
  case h_6 => exact h.elim
  case h_5 heq => exact absurd heq (List.cons_ne_nil a left)
  case h_1 refusal heq =>
    obtain ⟨rfl, rfl⟩ := List.cons.inj heq
    exact ⟨refusal, List.mem_cons_self⟩
  case h_2 refusal heq =>
    obtain ⟨rfl, rfl⟩ := List.cons.inj heq
    exact ⟨refusal, List.mem_cons_of_mem _ List.mem_cons_self⟩
  case h_3 refusal heq =>
    obtain ⟨rfl, rfl⟩ := List.cons.inj heq
    exact ⟨refusal, List.mem_cons_of_mem _ (List.mem_cons_of_mem _ List.mem_cons_self)⟩
  case h_4 heq =>
    obtain ⟨rfl, rfl⟩ := List.cons.inj heq
    exact ⟨none, by simp [flush]⟩

end Flushing

/-! ## The stages -/

/-- When the persister asks the registry. -/
inductive Occasion
  /-- The bus dropped events. -/
  | lag
  /-- It is time to save. -/
  | tick
  /-- The run is over. -/
  | last
  deriving DecidableEq, Repr

/-- How far the persister has come. -/
inductive Stage
  | unsubscribed
  | following
  /-- The registrations that are left to ask. -/
  | asking (left : List (String × Registration)) (occasion : Occasion)
  /-- The answers that are left to record. -/
  | recording (left : List (String × Instant)) (occasion : Occasion)
  /-- The steps of the flush that are left. -/
  | flushing (left : List FlushAction) (occasion : Occasion)
  /-- The run is over, and what waits on the bus is handled. -/
  | draining
  | finished

/-- Whether a stage takes events from the bus. -/
def Stage.listens : Stage → Bool
  | .following => true
  | .draining => true
  | _ => false

/-- The persister with its store, its position on the bus, how far it has come, and what it was told. -/
structure Follower where
  flushing : Flushing
  position : Nat := 0
  stage : Stage := .unsubscribed
  /-- The activations that the bus handed over. -/
  received : List (String × Instant) := []
  /-- What the registry had when it was last begun to ask it. -/
  asked : List (String × Instant) := []
  /-- The stamps that registered targets had got by then. -/
  due : List Stamped := []
  /-- What it answered since. -/
  reported : List (String × Instant) := []
  /-- Whether the last flush returned without a failure. -/
  saved : Bool := false

namespace Follower

/-- The store that is kept. -/
abbrev store (x : Follower) : Store :=
  x.flushing.store

/-- Begins to ask for the activations, in some order of the registrations. -/
def ask (x : Follower) (w : Traffic) (left : List (String × Registration)) (occasion : Occasion) : Follower :=
  { x with stage := .asking left occasion, asked := w.registry.activations, due := w.live, reported := [] }

/-- One step. -/
inductive Step (w : Traffic) : Follower → Follower → Prop
  /-- The persister subscribes. -/
  | subscribe {x : Follower} (hs : x.stage = .unsubscribed) : Step w x { x with position := w.bus.size, stage := .following }
  /-- It is told of an activation. -/
  | record {x : Follower} {identity : String} {t : Instant} {position : Nat} (hs : x.stage.listens)
      (hr : w.bus.receive x.position = some (.event (.activated identity t), position)) :
      Step w x { x with
        flushing := x.flushing.step (.record identity t)
        position
        received := (identity, t) :: x.received }
  /-- It is told of something else. -/
  | pass {x : Follower} {e : Event} {position : Nat} (hs : x.stage.listens)
      (hr : w.bus.receive x.position = some (.event e, position)) (he : e.activation? = none) : Step w x { x with position }
  /-- It lost events, and begins to ask the registry. -/
  | lag {x : Follower} {missed position : Nat} {left : List (String × Registration)} (hs : x.stage = .following)
      (hr : w.bus.receive x.position = some (.lagged missed, position)) (hl : left.Perm w.registry.registered) :
      Step w x (ask { x with position } w left .lag)
  /-- It is time to save. -/
  | tick {x : Follower} {left : List (String × Registration)} (hs : x.stage = .following) (hl : left.Perm w.registry.registered) :
      Step w x (x.ask w left .tick)
  /-- It was told to stop, or nothing will come any more. -/
  | leave {x : Follower} (hs : x.stage = .following)
      (hl : w.signalled ∨ w.closed ∧ w.bus.receive x.position = none) : Step w x { x with stage := .draining }
  /-- A loss is passed over at the end. -/
  | skip {x : Follower} {missed position : Nat} (hs : x.stage = .draining)
      (hr : w.bus.receive x.position = some (.lagged missed, position)) : Step w x { x with position }
  /-- Nothing waits on the bus at the end, and the registry is asked once more. -/
  | drained {x : Follower} {left : List (String × Registration)} (hs : x.stage = .draining)
      (hr : w.bus.receive x.position = none) (hl : left.Perm w.registry.registered) : Step w x (x.ask w left .last)
  /-- A place tells its last activation, if there was one. -/
  | read {x : Follower} {identity : String} {e : Registration} {left : List (String × Registration)} {occasion : Occasion}
      (hs : x.stage = .asking ((identity, e) :: left) occasion) :
      Step w x { x with
        stage := .asking left occasion
        reported := x.reported ++ ((w.registry.lastNotified e.place).map fun t => (identity, t)).toList }
  /-- All places were asked. -/
  | collected {x : Follower} {occasion : Occasion} (hs : x.stage = .asking [] occasion) :
      Step w x { x with stage := .recording x.reported occasion }
  /-- An answer is recorded. -/
  | sync {x : Follower} {identity : String} {t : Instant} {left : List (String × Instant)} {occasion : Occasion}
      (hs : x.stage = .recording ((identity, t) :: left) occasion) :
      Step w x { x with flushing := x.flushing.step (.record identity t), stage := .recording left occasion }
  /-- After a loss it goes on. -/
  | resume {x : Follower} (hs : x.stage = .recording [] .lag) : Step w x { x with stage := .following }
  /-- Otherwise it begins to save, and the save may fail in any way. -/
  | flush {x : Follower} {occasion : Occasion} (hs : x.stage = .recording [] occasion) (ho : occasion ≠ .lag)
      (refusal : Option StateFile.Refusal) : Step w x { x with stage := .flushing (Flushing.flush refusal) occasion }
  /-- It takes a step of the flush. -/
  | advance {x : Follower} {a : FlushAction} {left : List FlushAction} {occasion : Occasion}
      (hs : x.stage = .flushing (a :: left) occasion) :
      Step w x { x with
        flushing := x.flushing.step a
        stage := .flushing left occasion
        saved := x.flushing.progress != .failed }
  /-- The flush returned, and the persister goes on. -/
  | proceed {x : Follower} {occasion : Occasion} (hs : x.stage = .flushing [] occasion) (ho : occasion ≠ .last) :
      Step w x { x with stage := .following }
  /-- The last flush returned, and so does the persister. -/
  | finish {x : Follower} (hs : x.stage = .flushing [] .last) : Step w x { x with stage := .finished }

/-! ## What every stage promises -/

/-- While the registry is asked: every activation it had is at a place that is left to ask, or was answered. -/
structure Asking (loaded : Store) (w : Traffic) (x : Follower) (left : List (String × Registration)) : Prop where
  idle : x.flushing.progress = .idle
  owners : ∀ {p : String × Registration}, p ∈ left → w.owners[p.2.place]? = some p.1
  accounted : ∀ {identity : String} {t : Instant}, (identity, t) ∈ x.reported → Accounted loaded w.given identity t
  answered : ∀ {identity : String} {t : Instant}, (identity, t) ∈ x.asked →
    (∃ e t', (identity, e) ∈ left ∧ w.registry.lastNotified e.place = some t' ∧ t ≤ t') ∨
      ∃ t', (identity, t') ∈ x.reported ∧ t ≤ t'

/-- While the answers are recorded: every one is left to record, or the store has it at least. -/
structure Recording (loaded : Store) (w : Traffic) (x : Follower) (left : List (String × Instant)) : Prop where
  idle : x.flushing.progress = .idle
  accounted : ∀ {identity : String} {t : Instant}, (identity, t) ∈ left → Accounted loaded w.given identity t
  answered : ∀ {identity : String} {t : Instant}, (identity, t) ∈ x.asked → ∃ t', (identity, t') ∈ x.reported ∧ t ≤ t'
  recorded : ∀ {identity : String} {t : Instant}, (identity, t) ∈ x.reported →
    (identity, t) ∈ left ∨ x.store.Reaches identity t

/-- From when all answers are recorded: the store has them at least, and as much of it is saved as the flush has come to. -/
structure Recorded (x : Follower) (left : List FlushAction) : Prop where
  phase : x.flushing.Phase x.saved left
  answered : ∀ {identity : String} {t : Instant}, (identity, t) ∈ x.asked → ∃ t', (identity, t') ∈ x.reported ∧ t ≤ t'
  recorded : ∀ {identity : String} {t : Instant}, (identity, t) ∈ x.reported → x.store.Reaches identity t

/-- What the stage that the persister has come to promises. -/
def Stands (loaded : Store) (w : Traffic) (x : Follower) : Prop :=
  match x.stage with
  | .asking left _ => Asking loaded w x left
  | .recording left _ => Recording loaded w x left
  | .flushing left _ => Recorded x left
  | .finished => Recorded x []
  | _ => x.flushing.progress = .idle

/-- What all steps keep, from what was loaded on. -/
structure Sound (loaded : Store) (w : Traffic) (x : Follower) : Prop where
  kept : x.flushing.Kept
  position : x.position ≤ w.bus.size
  accounted : ∀ {identity : String} {t : Instant}, x.store.restored identity = some t → Accounted loaded w.given identity t
  received : ∀ {identity : String} {t : Instant}, (identity, t) ∈ x.received → x.store.Reaches identity t
  due : ∀ {g : Stamped}, g ∈ x.due → ∃ t, (g.identity, t) ∈ x.asked ∧ g.time ≤ t
  stands : x.Stands loaded w

section Sound

variable {loaded : Store} {w w' : Traffic} {x x' : Follower}

/-- What was promised is kept when anything else happens. -/
theorem Sound.grown (h : x.Sound loaded w) (hg : w.Grown w') : x.Sound loaded w' where
  kept := h.kept
  position := Nat.le_trans h.position hg.published
  accounted hr := (h.accounted hr).mono hg.given
  received := h.received
  due := h.due
  stands := by
    have hstands := h.stands
    unfold Stands at hstands ⊢
    cases hs : x.stage with
    | asking left occasion =>
      rw [hs] at hstands
      refine { hstands with owners := fun hp => hg.owners (hstands.owners hp), accounted := fun ha => (hstands.accounted ha).mono hg.given,
                            answered := fun ha => ?_ }
      rcases hstands.answered ha with ⟨e, t', he, ht', hle⟩ | hanswer
      · obtain ⟨t'', ht'', hle'⟩ := hg.rises ht'
        exact .inl ⟨e, t'', he, ht'', Std.le_trans hle hle'⟩
      · exact .inr hanswer
    | recording left occasion =>
      rw [hs] at hstands
      exact { hstands with accounted := fun ha => (hstands.accounted ha).mono hg.given }
    | flushing left occasion | unsubscribed | following | draining | finished =>
      rw [hs] at hstands
      exact hstands

/-- What is promised while the registry is asked. -/
theorem Sound.asking (h : x.Sound loaded w) {left : List (String × Registration)} {occasion : Occasion}
    (hs : x.stage = .asking left occasion) : Asking loaded w x left := by
  have hstands := h.stands
  rwa [Stands, hs] at hstands

/-- What is promised while the answers are recorded. -/
theorem Sound.recording (h : x.Sound loaded w) {left : List (String × Instant)} {occasion : Occasion}
    (hs : x.stage = .recording left occasion) : Recording loaded w x left := by
  have hstands := h.stands
  rwa [Stands, hs] at hstands

/-- What is promised while the store is flushed. -/
theorem Sound.flushing (h : x.Sound loaded w) {left : List FlushAction} {occasion : Occasion}
    (hs : x.stage = .flushing left occasion) : Recorded x left := by
  have hstands := h.stands
  rwa [Stands, hs] at hstands

/-- What is promised when the persister has returned. -/
theorem Sound.finished (h : x.Sound loaded w) (hs : x.stage = .finished) : Recorded x [] := by
  have hstands := h.stands
  rwa [Stands, hs] at hstands

/-- A step of the flush leaves what the store has. -/
theorem Sound.restored_advance (h : x.Sound loaded w) {a : FlushAction} {left : List FlushAction} {occasion : Occasion}
    (hs : x.stage = .flushing (a :: left) occasion) (identity : String) :
    (x.flushing.step a).store.restored identity = x.store.restored identity := by
  obtain ⟨refusal, hmem⟩ := (h.flushing hs).phase.mem_flush
  rw [Store.restored, Flushing.targets_step_of_flush hmem]
  rfl

/-- No flush is on its way while events are taken. -/
theorem Sound.idle_of_listens (h : x.Sound loaded w) (hs : x.stage.listens) : x.flushing.progress = .idle := by
  have hstands := h.stands
  unfold Stands at hstands
  unfold Stage.listens at hs
  split at hs
  · next hstage =>
    rw [hstage] at hstands
    exact hstands
  · next hstage =>
    rw [hstage] at hstands
    exact hstands
  · exact absurd hs Bool.false_ne_true

/-- Where events are taken, or none yet, all that is promised is that no flush is on its way. -/
theorem stands_of_listens (hs : x.stage.listens) (hidle : x.flushing.progress = .idle) : x.Stands loaded w := by
  unfold Stands
  unfold Stage.listens at hs
  split at hs
  · next hstage =>
    rw [hstage]
    exact hidle
  · next hstage =>
    rw [hstage]
    exact hidle
  · exact absurd hs Bool.false_ne_true

/-- What was loaded or given may be recorded. -/
theorem Sound.accounted_record (h : x.Sound loaded w) {recorded : String} {u : Instant} (hu : Accounted loaded w.given recorded u)
    {identity : String} {t : Instant} (ht : (x.store.record recorded u).2.restored identity = some t) :
    Accounted loaded w.given identity t := by
  rcases Store.restored_record_cases ht with ht | ⟨rfl, rfl⟩
  · exact h.accounted ht
  · exact hu

/-- An activation that the bus hands over is recorded: it is accounted for, since it was published. -/
theorem Sound.record (h : x.Sound loaded w) (hw : w.Sound loaded) {identity : String} {t : Instant} {position : Nat}
    (hs : x.stage.listens) (hr : w.bus.receive x.position = some (.event (.activated identity t), position)) :
    Sound loaded w { x with
      flushing := x.flushing.step (.record identity t)
      position
      received := (identity, t) :: x.received } where
  kept := h.kept.step (.record identity t)
  position := Bus.next_le_of_receive hr
  accounted ht := h.accounted_record (hw.published (Bus.mem_published_of_receive hr)) ht
  received {j u} hm := by
    rcases List.mem_cons.mp hm with hm | hm
    · obtain ⟨rfl, rfl⟩ := Prod.mk.inj hm
      exact Store.reaches_record _ _ _
    · exact (h.received hm).record _ _
  due := h.due
  stands := stands_of_listens hs (h.idle_of_listens hs)

/-- The registry is asked: every activation it has is at a place that is left to ask. -/
theorem Sound.ask (h : x.Sound loaded w) (hw : w.Sound loaded) (hidle : x.flushing.progress = .idle)
    {left : List (String × Registration)} (hl : left.Perm w.registry.registered) {position : Nat} (hp : position ≤ w.bus.size)
    (occasion : Occasion) : Sound loaded w (ask { x with position } w left occasion) where
  kept := h.kept
  position := hp
  accounted := h.accounted
  received := h.received
  due hg := hw.live_le_activations hg
  stands := {
    idle := hidle
    owners := fun hp => (hw.registered (hl.mem_iff.mp hp)).2
    accounted := fun ha => absurd ha List.not_mem_nil
    answered := by
      intro identity t ha
      obtain ⟨e, he, hlast⟩ := Registry.mem_activations.mp ha
      exact .inl ⟨e, t, hl.mem_iff.mpr he, hlast, Std.le_refl t⟩ }

/-- A place is asked: what it has is answered, and nothing that is lower was there when the asking began. -/
theorem Sound.read (h : x.Sound loaded w) (hw : w.Sound loaded) {identity : String} {e : Registration}
    {left : List (String × Registration)} {occasion : Occasion} (hs : x.stage = .asking ((identity, e) :: left) occasion) :
    Sound loaded w { x with
      stage := .asking left occasion
      reported := x.reported ++ ((w.registry.lastNotified e.place).map fun t => (identity, t)).toList } := by
  have hstands := h.asking hs
  refine { h with stands := ?_ }
  constructor
  case idle => exact hstands.idle
  case owners => exact fun hp => hstands.owners (List.mem_cons_of_mem _ hp)
  case accounted =>
    intro j u hu
    rcases List.mem_append.mp hu with hu | hu
    · exact hstands.accounted hu
    · obtain ⟨last, hlast, hpair⟩ := Option.map_eq_some_iff.mp (Option.mem_toList.mp hu)
      obtain ⟨rfl, rfl⟩ := Prod.mk.inj hpair
      exact hw.stamps (hstands.owners List.mem_cons_self) hlast
  case answered =>
    intro j u hu
    rcases hstands.answered hu with ⟨f, t, hf, ht, hle⟩ | ⟨t, ht, hle⟩
    · rcases List.mem_cons.mp hf with hf | hf
      · obtain ⟨rfl, rfl⟩ := Prod.mk.inj hf
        refine .inr ⟨t, List.mem_append_right _ ?_, hle⟩
        rw [ht]
        exact List.mem_singleton_self _
      · exact .inl ⟨f, t, hf, ht, hle⟩
    · exact .inr ⟨t, List.mem_append_left _ ht, hle⟩

/-- All places were asked, so every activation that there was is answered. -/
theorem Sound.collected (h : x.Sound loaded w) {occasion : Occasion} (hs : x.stage = .asking [] occasion) :
    Sound loaded w { x with stage := .recording x.reported occasion } := by
  have hstands := h.asking hs
  refine { h with stands := ?_ }
  constructor
  case idle => exact hstands.idle
  case accounted => exact hstands.accounted
  case answered =>
    intro j u hu
    rcases hstands.answered hu with ⟨f, t, hf, _⟩ | hanswer
    · exact absurd hf List.not_mem_nil
    · exact hanswer
  case recorded => exact fun hu => .inl hu

/-- An answer is recorded. -/
theorem Sound.sync (h : x.Sound loaded w) {identity : String} {t : Instant} {left : List (String × Instant)} {occasion : Occasion}
    (hs : x.stage = .recording ((identity, t) :: left) occasion) :
    Sound loaded w { x with flushing := x.flushing.step (.record identity t), stage := .recording left occasion } := by
  have hstands := h.recording hs
  constructor
  case kept => exact h.kept.step (.record identity t)
  case position => exact h.position
  case accounted => exact fun ht => h.accounted_record (hstands.accounted List.mem_cons_self) ht
  case received => exact fun hm => (h.received hm).record _ _
  case due => exact h.due
  case stands =>
    constructor
    case idle => exact hstands.idle
    case accounted => exact fun ha => hstands.accounted (List.mem_cons_of_mem _ ha)
    case answered => exact hstands.answered
    case recorded =>
      intro j u hu
      rcases hstands.recorded hu with hu | hreached
      · rcases List.mem_cons.mp hu with hu | hu
        · obtain ⟨rfl, rfl⟩ := Prod.mk.inj hu
          exact .inr (Store.reaches_record _ _ _)
        · exact .inl hu
      · exact .inr (hreached.record _ _)

/-- All answers are recorded, so the store has them at least. -/
theorem Sound.flush (h : x.Sound loaded w) {occasion : Occasion} (hs : x.stage = .recording [] occasion)
    (refusal : Option StateFile.Refusal) : Sound loaded w { x with stage := .flushing (Flushing.flush refusal) occasion } := by
  have hstands := h.recording hs
  refine { h with stands := ⟨hstands.idle, hstands.answered, fun hu => ?_⟩ }
  rcases hstands.recorded hu with hu | hreached
  · exact absurd hu List.not_mem_nil
  · exact hreached

/-- A step of the flush keeps what was promised, since it leaves what the store has. -/
theorem Sound.advance (h : x.Sound loaded w) {a : FlushAction} {left : List FlushAction} {occasion : Occasion}
    (hs : x.stage = .flushing (a :: left) occasion) :
    Sound loaded w { x with
      flushing := x.flushing.step a
      stage := .flushing left occasion
      saved := x.flushing.progress != .failed } := by
  have hstands := h.flushing hs
  have hreaches : ∀ {identity : String} {t : Instant}, x.store.Reaches identity t →
      (x.flushing.step a).store.Reaches identity t := by
    intro identity t hr
    rw [Store.Reaches, h.restored_advance hs]
    exact hr
  constructor
  case kept => exact h.kept.step a
  case position => exact h.position
  case accounted => exact fun {identity t} ht => h.accounted ((h.restored_advance hs identity).symm.trans ht)
  case received => exact fun hm => hreaches (h.received hm)
  case due => exact h.due
  case stands => exact ⟨hstands.phase.step, hstands.answered, fun hu => hreaches (hstands.recorded hu)⟩

/-- Every step keeps what was promised. -/
theorem Sound.step (h : x.Sound loaded w) (hw : w.Sound loaded) (hstep : Step w x x') : x'.Sound loaded w := by
  cases hstep with
  | subscribe hs =>
    have hidle := h.stands
    rw [Stands, hs] at hidle
    exact { h with position := Nat.le_refl _, stands := hidle }
  | record hs hr => exact h.record hw hs hr
  | pass hs hr he =>
    exact { h with position := Bus.next_le_of_receive hr, stands := stands_of_listens hs (h.idle_of_listens hs) }
  | lag hs hr hl => exact h.ask hw (h.idle_of_listens (hs ▸ rfl)) hl (Bus.next_le_of_receive hr) .lag
  | tick hs hl => exact h.ask hw (h.idle_of_listens (hs ▸ rfl)) hl h.position .tick
  | leave hs hl => exact { h with stands := stands_of_listens rfl (h.idle_of_listens (hs ▸ rfl)) }
  | skip hs hr =>
    have hlistens : x.stage.listens := hs ▸ rfl
    exact { h with position := Bus.next_le_of_receive hr, stands := stands_of_listens hlistens (h.idle_of_listens hlistens) }
  | drained hs hr hl => exact h.ask hw (h.idle_of_listens (hs ▸ rfl)) hl h.position .last
  | read hs => exact h.read hw hs
  | collected hs => exact h.collected hs
  | sync hs => exact h.sync hs
  | resume hs => exact { h with stands := stands_of_listens rfl (h.recording hs).idle }
  | flush hs ho refusal => exact h.flush hs refusal
  | advance hs => exact h.advance hs
  | proceed hs ho => exact { h with stands := stands_of_listens rfl (h.flushing hs).phase.1 }
  | finish hs =>
    have hstands := h.flushing hs
    exact { h with stands := ⟨hstands.phase, hstands.answered, hstands.recorded⟩ }

/-- No step lowers what the store has. -/
theorem Step.reaches (h : x.Sound loaded w) (hstep : Step w x x') {identity : String} {t : Instant} (hr : x.store.Reaches identity t) :
    x'.store.Reaches identity t := by
  cases hstep with
  | record hs hr' => exact hr.record _ _
  | sync hs => exact hr.record _ _
  | @advance a left occasion hs =>
    rw [Store.Reaches, h.restored_advance hs]
    exact hr
  | subscribe | pass | lag | tick | leave | skip | drained | read | collected | resume | flush | proceed | finish => exact hr

end Sound

end Follower

end Herald
