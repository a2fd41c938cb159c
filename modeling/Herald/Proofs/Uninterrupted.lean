import Herald.Hub
import Herald.Proofs.Follower
import Herald.State.Persister
import Mathlib.Logic.Relation

/-!
# What happens without interruption

The operations of the hub and of the persister are runs of the steps that other things may come in between: when nothing does, the steps
of a registration are `Hub.register`, those of a dispatch are `Hub.activate`, and the persister's are `Persister.step`, `Persister.follow`,
`Persister.tick` and `Persister.finish`. So whatever holds after every run of the steps holds after these.
-/

namespace Herald

open Relation (ReflTransGen)

/-! ## The hub -/

namespace Traffic

/-- Whether a state is that of a hub, with nobody holding the registry. -/
structure Shows (w : Traffic) (h : Hub) : Prop where
  registry : w.registry = h.registry
  bus : w.bus = h.bus
  free : w.entering = none
  opened : w.closed = false

variable {s : Store} {w : Traffic} {h : Hub}

/-- Something is published. -/
theorem Shows.publish (hw : w.Shows h) {e : Event} (he : e.activation? = none) :
    ∃ w', ReflTransGen (Step s) w w' ∧ w'.Shows (h.publish e) :=
  ⟨_, .single (.announce he hw.opened), hw.registry, congrArg (fun b => Bus.publish b e) hw.bus, hw.free, hw.opened⟩

/-- Registering a target. -/
theorem Shows.register (hw : w.Shows h) {restored : Option Instant} {identity : String}
    (hr : restored = none ∨ restored = s.restored identity) (target : Target) :
    ∃ w', ReflTransGen (Step s) w w' ∧ w'.Shows (h.register restored identity target).1 := by
  have harrive : Step s w { w with arriving := ⟨identity, target, restored⟩ :: w.arriving } := .arrive identity target hr
  have henter := (ReflTransGen.single harrive).tail (.enter [] _ hw.free rfl)
  rw [hw.registry] at henter
  have hinstall : ∃ w', ReflTransGen (Step s) w w' ∧
      w'.Shows { h with registry := (h.registry.register restored identity target).1 } := by
    cases restored with
    | none => exact ⟨_, henter.tail (.install rfl rfl), rfl, hw.bus, rfl, hw.opened⟩
    | some t => exact ⟨_, (henter.tail (.restore rfl rfl)).tail (.install rfl rfl), rfl, hw.bus, rfl, hw.opened⟩
  obtain ⟨w', hsteps, hshows⟩ := hinstall
  obtain ⟨w'', hpublish, hshows'⟩ := hshows.publish (s := s) (e := .registered identity) rfl
  exact ⟨w'', hsteps.trans hpublish, hshows'⟩

/-- Removing an identity. -/
theorem Shows.unregister (hw : w.Shows h) (identity : String) :
    ∃ w', ReflTransGen (Step s) w w' ∧ w'.Shows (h.unregister identity).1 := by
  unfold Hub.unregister Registry.unregister
  cases he : h.registry.resolve identity with
  | none => exact ⟨w, .refl, hw⟩
  | some e =>
    have hremove : Step s w { w with registry := w.registry.remove identity } := .remove identity hw.free
    have hshows : Shows { w with registry := w.registry.remove identity } { h with registry := h.registry.remove identity } :=
      ⟨congrArg (fun r => Registry.remove r identity) hw.registry, hw.bus, hw.free, hw.opened⟩
    obtain ⟨w', hsteps, hshows'⟩ := hshows.publish (s := s) (e := .removed identity) rfl
    exact ⟨w', .head hremove hsteps, hshows'⟩

/-- Activating a registration that is found. -/
theorem Shows.activate (hw : w.Shows h) {identity : String} {e : Registration} (he : h.registry.resolve identity = some e)
    (now : Instant) (m : Message) : ∃ w', ReflTransGen (Step s) w w' ∧ w'.Shows (h.activate now e m).2 := by
  have hhold : Step s w { w with held := e :: w.held } := .hold identity (hw.registry ▸ he)
  have hstamp := (ReflTransGen.single hhold).tail (.stamp [] _ rfl now)
  have hpublish := hstamp.tail (.publish [] _ rfl hw.opened)
  rw [hw.registry] at hpublish
  exact ⟨_, hpublish, rfl, congrArg (fun b => Bus.publish b _) hw.bus, hw.free, hw.opened⟩

/-- Publishing some things that are no activations. -/
theorem Shows.publishAll (hw : w.Shows h) {es : List Event} (hes : ∀ e ∈ es, e.activation? = none) :
    ∃ w', ReflTransGen (Step s) w w' ∧ w'.Shows { h with bus := h.bus.publishAll es } := by
  induction es generalizing w h with
  | nil =>
    refine ⟨w, .refl, hw.registry, ?_, hw.free, hw.opened⟩
    rw [Bus.publishAll, List.append_nil]
    exact hw.bus
  | cons e rest ih =>
    obtain ⟨w', hfirst, hshows⟩ := hw.publish (s := s) (hes e List.mem_cons_self)
    obtain ⟨w'', hrest, hshows'⟩ := ih hshows fun f hf => hes f (List.mem_cons_of_mem _ hf)
    refine ⟨w'', hfirst.trans hrest, hshows'.registry, ?_, hshows'.free, hshows'.opened⟩
    rw [hshows'.bus]
    simp only [Hub.publish, Bus.publish, Bus.publishAll, List.append_assoc, List.singleton_append]

/-- Removing every identity. -/
theorem Shows.clear (hw : w.Shows h) : ∃ w', ReflTransGen (Step s) w w' ∧ w'.Shows h.clear.1 := by
  have hremove : Step s w { w with registry := w.registry.removeAll } := .removeAll hw.free
  have hshows : Shows { w with registry := w.registry.removeAll } { h with registry := h.registry.removeAll } :=
    ⟨congrArg Registry.removeAll hw.registry, hw.bus, hw.free, hw.opened⟩
  have hremoved : ∀ e ∈ h.registry.clear.2.map fun t => Event.removed t.registration.identity, e.activation? = none := by
    intro e he
    obtain ⟨t, _, rfl⟩ := List.mem_map.mp he
    rfl
  obtain ⟨w', hsteps, hshows'⟩ := hshows.publishAll (s := s) hremoved
  exact ⟨w', .head hremove hsteps, hshows'⟩

end Traffic

/-! ## The persister -/

namespace Follower

/-- Whether the steps have come to a stage where the persister is as it is in one piece, with no flush on its way. -/
structure At (x : Follower) (stage : Stage) (p : Persister) (files : Files) : Prop where
  stage : x.stage = stage
  position : x.position = p.position
  vault : x.flushing.vault = p.vault
  files : x.flushing.files = files
  idle : x.flushing.progress = .idle

variable {w : Traffic} {x : Follower} {p : Persister} {files : Files}

/-- All places are asked. -/
theorem steps_read {left : List (String × Registration)} {occasion : Occasion} (hs : x.stage = .asking left occasion) :
    ReflTransGen (Step w) x { x with
      stage := .asking [] occasion
      reported := x.reported ++ left.filterMap fun p => (w.registry.lastNotified p.2.place).map fun t => (p.1, t) } := by
  induction left generalizing x with
  | nil =>
    rw [List.filterMap_nil, List.append_nil, ← hs]
  | cons p rest ih =>
    have hread := ih (x := { x with
      stage := .asking rest occasion
      reported := x.reported ++ ((w.registry.lastNotified p.2.place).map fun t => (p.1, t)).toList }) rfl
    have hcons : ((w.registry.lastNotified p.2.place).map fun t => (p.1, t)).toList ++
        (rest.filterMap fun p => (w.registry.lastNotified p.2.place).map fun t => (p.1, t)) =
          (p :: rest).filterMap fun p => (w.registry.lastNotified p.2.place).map fun t => (p.1, t) := by
      rw [List.filterMap_cons]
      cases (w.registry.lastNotified p.2.place).map fun t => (p.1, t) <;> rfl
    rw [List.append_assoc, hcons] at hread
    exact .head (.read hs) hread

/-- All answers are recorded. -/
theorem steps_sync {left : List (String × Instant)} {occasion : Occasion} (hs : x.stage = .recording left occasion) :
    ReflTransGen (Step w) x { x with flushing := x.flushing.step (.sync left), stage := .recording [] occasion } := by
  induction left generalizing x with
  | nil =>
    rw [← hs]
    exact .refl
  | cons a rest ih =>
    exact .head (.sync hs) (ih (x := { x with flushing := x.flushing.step (.record a.1 a.2), stage := .recording rest occasion }) rfl)

/-- The registry is asked and all it has is recorded. -/
theorem steps_ask (x : Follower) (occasion : Occasion) :
    ReflTransGen (Step w) (x.ask w w.registry.registered occasion) { x with
      flushing := x.flushing.step (.sync w.registry.activations)
      stage := .recording [] occasion
      asked := w.registry.activations
      due := w.live
      reported := w.registry.activations } := by
  have hread := steps_read (w := w) (x := x.ask w w.registry.registered occasion) rfl
  have hcollected := hread.tail (.collected rfl)
  exact hcollected.trans (steps_sync rfl)

/-- The steps of a flush are taken, and whether it failed is seen before the last one. -/
theorem steps_advance (left : List FlushAction) {last : FlushAction} {occasion : Occasion}
    (hs : x.stage = .flushing (left ++ [last]) occasion) :
    ReflTransGen (Step w) x { x with
      flushing := x.flushing.run (left ++ [last])
      stage := .flushing [] occasion
      saved := (x.flushing.run left).progress != .failed } := by
  induction left generalizing x with
  | nil => exact .single (.advance hs)
  | cons a rest ih =>
    exact .head (.advance hs) (ih (x := { x with
      flushing := x.flushing.step a
      stage := .flushing (rest ++ [last]) occasion
      saved := x.flushing.progress != .failed }) rfl)

/-- All is saved, or not. -/
theorem steps_flush {occasion : Occasion} (hs : x.stage = .recording [] occasion) (ho : occasion ≠ .lag) :
    ReflTransGen (Step w) x { x with
      flushing := x.flushing.run (Flushing.flush none)
      stage := .flushing [] occasion
      saved := (x.flushing.run [.clear, .take, .save none]).progress != .failed } :=
  .head (.flush hs ho none) (steps_advance [.clear, .take, .save none] rfl)

/-- The store is synchronised and flushed as `Vault.flush` does it. -/
theorem At.save {stage : Stage} (h : x.At stage p files) (occasion : Occasion) (ho : occasion ≠ .lag) :
    ∃ x', ReflTransGen (Step w) (x.ask w w.registry.registered occasion) x' ∧
      x'.At (.flushing [] occasion) (p.tick w.registry.activations files).1 (p.tick w.registry.activations files).2 := by
  have hflush := (steps_ask (w := w) x occasion).trans (steps_flush rfl ho)
  have hsynced : x.flushing.step (.sync w.registry.activations) =
      ⟨p.vault.modify fun s => s.sync w.registry.activations, files, .idle, x.flushing.saves⟩ := by
    rw [Flushing.step, h.vault, h.files, h.idle]
  obtain ⟨hvault, hfiles, hidle, _⟩ := Flushing.run_flush (p.vault.modify fun s => s.sync w.registry.activations) files x.flushing.saves
  rw [hsynced] at hflush
  exact ⟨_, hflush, rfl, h.position, hvault, hfiles, hidle⟩

/-- Time to save. -/
theorem At.tick (h : x.At .following p files) :
    ∃ x', ReflTransGen (Step w) x x' ∧
      x'.At .following (p.tick w.registry.activations files).1 (p.tick w.registry.activations files).2 := by
  obtain ⟨x', hsteps, hat⟩ := h.save (w := w) .tick nofun
  refine ⟨_, (hsteps.head (.tick h.stage (.refl _))).tail (.proceed hat.stage nofun), rfl, hat.position, hat.vault, hat.files, hat.idle⟩

/-- A receipt is handled. -/
theorem At.handle {stage : Stage} {source : List (String × Instant)} (h : x.At stage p files)
    (hl : stage = .following ∧ source = w.registry.activations ∨ stage = .draining ∧ source = []) {r : Receipt} {next : Nat}
    (hr : w.bus.receive p.position = some (r, next)) :
    ∃ x', ReflTransGen (Step w) x x' ∧ x'.At stage ⟨Persister.handle source p.vault r, next⟩ files := by
  rw [← h.position] at hr
  have hlistens : x.stage.listens := by
    rw [h.stage]
    rcases hl with ⟨rfl, _⟩ | ⟨rfl, _⟩ <;> rfl
  have hpass : ∀ {e : Event}, r = .event e → e.activation? = none → Persister.handle source p.vault r = p.vault →
      ∃ x', ReflTransGen (Step w) x x' ∧ x'.At stage ⟨Persister.handle source p.vault r, next⟩ files := by
    intro e he hnone hsame
    subst he
    rw [hsame]
    exact ⟨_, .single (.pass hlistens hr hnone), h.stage, rfl, h.vault, h.files, h.idle⟩
  cases r with
  | event e =>
    cases e with
    | activated identity t =>
      refine ⟨_, .single (.record hlistens hr), h.stage, rfl, ?_, h.files, h.idle⟩
      rw [Flushing.step, h.vault]
      rfl
    | registered | removed | sendSucceeded | sendFailed => exact hpass rfl rfl rfl
  | lagged missed =>
    rcases hl with ⟨rfl, rfl⟩ | ⟨rfl, rfl⟩
    · have hask := steps_ask (w := w) { x with position := next } .lag
      refine ⟨_, (hask.head (.lag h.stage hr (.refl _))).tail (.resume rfl), rfl, rfl, ?_, h.files, h.idle⟩
      rw [Flushing.step, h.vault]
      rfl
    · exact ⟨_, .single (.skip h.stage hr), h.stage, rfl, h.vault, h.files, h.idle⟩

/-- Everything that waits on the bus is handled. -/
theorem At.follow {stage : Stage} {source : List (String × Instant)} (h : x.At stage p files) (hp : p.position ≤ w.bus.size)
    (hl : stage = .following ∧ source = w.registry.activations ∨ stage = .draining ∧ source = []) :
    ∃ x', ReflTransGen (Step w) x x' ∧ x'.At stage (p.follow w.bus source) files := by
  generalize hreceipts : (w.bus.receiveAll p.position).1 = receipts
  induction receipts generalizing x p with
  | nil =>
    have hnone : w.bus.receive p.position = none := by
      cases hr : w.bus.receive p.position with
      | none => rfl
      | some received =>
        rw [Bus.receiveAll_of_receive hr] at hreceipts
        exact absurd hreceipts nofun
    have hend : p.position = w.bus.size := Nat.le_antisymm hp (Bus.size_le_of_receive_none hnone)
    have hsame : p.follow w.bus source = p := by
      rw [Persister.follow, Bus.receiveAll_of_receive_none hnone, ← hend]
      rfl
    rw [hsame]
    exact ⟨x, .refl, h⟩
  | cons r rest ih =>
    rcases hr : w.bus.receive p.position with _ | ⟨r', next⟩
    · rw [Bus.receiveAll_of_receive_none hr] at hreceipts
      exact absurd hreceipts nofun
    · have hall := Bus.receiveAll_of_receive hr
      rw [hall] at hreceipts
      obtain ⟨x', hhandle, hat⟩ := h.handle hl hr
      obtain ⟨x'', hfollow, hat'⟩ := ih hat (Bus.next_le_of_receive hr) (List.cons.inj hreceipts).2
      have hsame : Persister.follow ⟨Persister.handle source p.vault r', next⟩ w.bus source = p.follow w.bus source := by
        simp only [Persister.follow, hall, List.foldl_cons]
        rfl
      exact ⟨x'', hhandle.trans hfollow, hsame ▸ hat'⟩

/-- Everything that still waits on the bus when the run is over is handled. -/
theorem At.drain (h : x.At .draining p files) (hp : p.position ≤ w.bus.size) :
    ∃ x', ReflTransGen (Step w) x x' ∧ x'.At .draining (p.drain w.bus) files ∧ w.bus.receive x'.position = none := by
  obtain ⟨x', hdrain, hat⟩ := h.follow hp (.inr ⟨rfl, rfl⟩)
  refine ⟨x', hdrain, hat, ?_⟩
  rw [hat.position]
  exact Bus.receive_size w.bus

/-- The end of a run that was told to stop. -/
theorem At.finish (h : x.At .following p files) (hp : p.position ≤ w.bus.size) (hs : w.signalled) :
    ∃ x', ReflTransGen (Step w) x x' ∧
      x'.At .finished (p.finish w.bus w.registry.activations files).1 (p.finish w.bus w.registry.activations files).2 := by
  have hleave : Step w x { x with stage := .draining } := .leave h.stage (.inl hs)
  have hdraining : At { x with stage := .draining } .draining p files := ⟨rfl, h.position, h.vault, h.files, h.idle⟩
  obtain ⟨x', hdrain, hat, hnone⟩ := hdraining.drain hp
  obtain ⟨x'', hsave, hat'⟩ := hat.save (w := w) .last nofun
  have hasked := (ReflTransGen.head hleave hdrain).tail (.drained hat.stage hnone (.refl _))
  exact ⟨_, (hasked.trans hsave).tail (.finish hat'.stage), rfl, hat'.position, hat'.vault, hat'.files, hat'.idle⟩

/-! ## The persister can return -/

/-- Whether the persister, left alone, can come to its end. -/
def Returns (w : Traffic) (x : Follower) : Prop :=
  ∃ x', ReflTransGen (Step w) x x' ∧ x'.stage = .finished

/-- What comes before a state from which the persister can return. -/
theorem Returns.before {y : Follower} (h : Returns w y) (hsteps : ReflTransGen (Step w) x y) : Returns w x := by
  obtain ⟨x', hrest, hs⟩ := h
  exact ⟨x', hsteps.trans hrest, hs⟩

/-- Steps keep what was promised. -/
theorem Sound.steps {loaded : Store} {x' : Follower} (h : x.Sound loaded w) (hw : w.Sound loaded) (hsteps : ReflTransGen (Step w) x x') :
    x'.Sound loaded w := by
  induction hsteps with
  | refl => exact h
  | tail _ hstep ih => exact ih.step hw hstep

/-- While events are taken, the persister is as it is in one piece. -/
theorem Sound.at_self {loaded : Store} (h : x.Sound loaded w) (hs : x.stage.listens) :
    x.At x.stage ⟨x.flushing.vault, x.position⟩ x.flushing.files :=
  ⟨rfl, rfl, rfl, rfl, h.idle_of_listens hs⟩

/-- It can return when it was told to stop. -/
theorem Sound.returns_following {loaded : Store} (h : x.Sound loaded w) (hsignal : w.signalled) (hs : x.stage = .following) : Returns w x := by
  have hat := h.at_self (hs ▸ rfl)
  rw [hs] at hat
  obtain ⟨x', hsteps, hfinished⟩ := hat.finish h.position hsignal
  exact ⟨x', hsteps, hfinished.stage⟩

section Returns

variable {loaded : Store} (hw : w.Sound loaded) (hsignal : w.signalled) (h : x.Sound loaded w)
include hw hsignal h

/-- It can complete its flush and return. -/
theorem Sound.returns_flushing {left : List FlushAction} {occasion : Occasion} (hs : x.stage = .flushing left occasion) : Returns w x := by
  induction left generalizing x with
  | nil =>
    by_cases ho : occasion = .last
    · subst ho
      exact ⟨_, .single (.finish hs), rfl⟩
    · have hproceed : Step w x { x with stage := .following } := .proceed hs ho
      exact ((h.step hw hproceed).returns_following hsignal rfl).before (.single hproceed)
  | cons a rest ih =>
    exact (ih (h.step hw (.advance hs)) rfl).before (.single (.advance hs))

/-- It can record the answers and return. -/
theorem Sound.returns_recording {left : List (String × Instant)} {occasion : Occasion} (hs : x.stage = .recording left occasion) :
    Returns w x := by
  have hsync := steps_sync (w := w) hs
  have hsound := h.steps hw hsync
  by_cases ho : occasion = .lag
  · subst ho
    exact ((hsound.step hw (.resume rfl)).returns_following hsignal rfl).before (hsync.tail (.resume rfl))
  · have hflush := Step.flush (w := w) (x := { x with flushing := x.flushing.step (.sync left), stage := .recording [] occasion })
      rfl ho none
    exact (Sound.returns_flushing hw hsignal (hsound.step hw hflush) rfl).before (hsync.tail hflush)

/-- It can ask the registry and return. -/
theorem Sound.returns_asking {left : List (String × Registration)} {occasion : Occasion} (hs : x.stage = .asking left occasion) :
    Returns w x := by
  have hcollected := (steps_read (w := w) hs).tail (.collected rfl)
  exact (Sound.returns_recording hw hsignal (h.steps hw hcollected) rfl).before hcollected

/-- It can handle what waits on the bus and return. -/
theorem Sound.returns_draining (hs : x.stage = .draining) : Returns w x := by
  have hat := h.at_self (hs ▸ rfl)
  rw [hs] at hat
  obtain ⟨x', hdrain, hat', hnone⟩ := hat.drain h.position
  have hasked := hdrain.tail (.drained hat'.stage hnone (.refl _))
  exact (Sound.returns_asking hw hsignal (h.steps hw hasked) rfl).before hasked

/-- Wherever the persister has come to, it can return when it was told to stop. -/
theorem Sound.returns : Returns w x := by
  cases hs : x.stage with
  | unsubscribed => exact ((h.step hw (.subscribe hs)).returns_following hsignal rfl).before (.single (.subscribe hs))
  | following => exact h.returns_following hsignal hs
  | asking left occasion => exact h.returns_asking hw hsignal hs
  | recording left occasion => exact h.returns_recording hw hsignal hs
  | flushing left occasion => exact h.returns_flushing hw hsignal hs
  | draining => exact h.returns_draining hw hsignal hs
  | finished => exact ⟨x, .refl, hs⟩

end Returns

end Follower

end Herald
