import Herald.Proofs.Lifetime
import Herald.Proofs.Restoring
import Herald.Proofs.ServiceCall

/-!
# Activations survive a restart

`App.build` begins a calm run, and what an application does in one piece continues it: it registers a target, dispatches a message or
handles a call, lets the pool take a step, follows the bus, or saves (`App.Goes`). `App.shutdown` ends it. So what was built, did any
number of these and was shut down without a failure was a life over its backend (`App.life_of_goes`), and whatever is built over the
backend after any number of lives shows what is remembered of them (`App.activations_survive_restarts`).
-/

namespace Herald

open Relation (ReflTransGen)

namespace Persisting

/-- Whether a state is that of a hub before the signal, with no dispatch on its way. -/
structure Serves (w : Traffic) (h : Hub) : Prop where
  shows : w.Shows h
  signalled : w.signalled = false
  held : w.held = []
  unpublished : w.unpublished = []

/-- Whether a state is that of an application whose persister runs. -/
structure Shows (x : Persisting) (app : App) (files : Files) : Prop where
  hub : Serves x.traffic app.hub
  persister : x.follower.At .following app.persister files
  persists : app.persists

section Uninterrupted

variable {w w' : Traffic} {f f' : Follower} {h : Hub}

/-- Before the signal a step of the others is calm if it removes nothing, and if a registration that begins looks up the store. -/
theorem Calm.of_traffic (hstep : Traffic.Step f.store w w') (hkeeps : ∀ i, w.registry.contains i → w'.registry.contains i)
    (hlooks : ∀ a ∈ w'.arriving, a ∈ w.arriving ∨ a.restored = f.store.restored a.identity) (hs : w'.signalled = false) :
    Calm ⟨w, f⟩ ⟨w', f⟩ where
  step := .traffic hstep
  keeps := hkeeps
  looks := hlooks
  quiet hsignal := by
    have hsignal : w'.signalled = true := hsignal
    rw [hs] at hsignal
    cases hsignal

/-- So it is if it leaves what is registered and what is on its way in. -/
theorem Calm.of_same (hstep : Traffic.Step f.store w w') (hregistered : w'.registry.registered = w.registry.registered)
    (harriving : w'.arriving = w.arriving) (hs : w'.signalled = false) : Calm ⟨w, f⟩ ⟨w', f⟩ := by
  refine .of_traffic hstep ?_ ?_ hs
  · intro i hc
    rwa [Registry.contains, Registry.resolve, hregistered]
  · intro a ha
    exact .inl (harriving ▸ ha)

/-- Steps of the persister are calm, if no dispatch is on its way once it was told to stop. -/
theorem calm_follower (hq : w.signalled → w.held = [] ∧ w.unpublished = []) (hsteps : ReflTransGen (Follower.Step w) f f') :
    CalmRuns ⟨w, f⟩ ⟨w, f'⟩ := by
  induction hsteps with
  | refl => exact .refl
  | tail _ hstep ih =>
    refine ih.tail ⟨.follower hstep, ?_, ?_, hq⟩
    · exact fun _ hc => hc
    · exact fun a ha => .inl ha

/-- Publishing something that is no activation. -/
theorem Serves.publish (hw : Serves w h) {e : Event} (he : e.activation? = none) :
    ∃ w', CalmRuns ⟨w, f⟩ ⟨w', f⟩ ∧ Serves w' (h.publish e) := by
  obtain ⟨⟨hregistry, hbus, hfree, hopened⟩, hs, hheld, hpublished⟩ := hw
  have hannounce : Calm ⟨w, f⟩ ⟨{ w with bus := w.bus.publish e }, f⟩ :=
    .of_same (.announce he hopened) rfl rfl hs
  exact ⟨_, .single hannounce, ⟨⟨hregistry, congrArg (fun b => Bus.publish b e) hbus, hfree, hopened⟩, hs, hheld, hpublished⟩⟩

/-- Registering a target with what the store has for it. -/
theorem Serves.register (hw : Serves w h) (identity : String) (target : Target) :
    ∃ w', CalmRuns ⟨w, f⟩ ⟨w', f⟩ ∧ Serves w' (h.register (f.store.restored identity) identity target).1 := by
  have hs := hw.signalled
  have harrive : Calm ⟨w, f⟩ ⟨{ w with arriving := ⟨identity, target, f.store.restored identity⟩ :: w.arriving }, f⟩ := by
    refine .of_traffic (.arrive identity target (.inr rfl)) (fun _ hc => hc) ?_ hs
    intro a ha
    rcases List.mem_cons.mp ha with rfl | ha
    · exact .inr rfl
    · exact .inl ha
  have hallocated {i : String} (hc : w.registry.contains i) : (w.registry.allocate identity).2.contains i := by
    rwa [Registry.contains, Registry.resolve, Registry.registered_allocate]
  have henter := (ReflTransGen.single harrive).tail (.of_traffic (.enter [] w.arriving hw.shows.free rfl)
    (fun _ hc => hallocated hc) (fun a ha => .inl (List.mem_cons_of_mem _ ha)) hs)
  have hinstall : ∃ w', CalmRuns ⟨w, f⟩ ⟨w', f⟩ ∧
      Serves w' { h with registry := (h.registry.register (f.store.restored identity) identity target).1 } := by
    rw [← hw.shows.registry]
    cases hr : f.store.restored identity with
    | none =>
      rw [hr] at henter
      have hput := henter.tail (.of_traffic (.install rfl rfl) (fun _ hc => Registry.contains_put hc _ _ _) (fun a ha => .inl ha) hs)
      exact ⟨_, hput, ⟨⟨rfl, hw.shows.bus, rfl, hw.shows.opened⟩, hs, hw.held, hw.unpublished⟩⟩
    | some t =>
      rw [hr] at henter
      have hrestore := henter.tail (.of_same (.restore rfl rfl) rfl rfl hs)
      have hput := hrestore.tail (.of_traffic (.install rfl rfl) (fun _ hc => Registry.contains_put hc _ _ _) (fun a ha => .inl ha) hs)
      exact ⟨_, hput, ⟨⟨rfl, hw.shows.bus, rfl, hw.shows.opened⟩, hs, hw.held, hw.unpublished⟩⟩
  obtain ⟨w', hruns, hw'⟩ := hinstall
  obtain ⟨w'', hpublish, hw''⟩ := hw'.publish (f := f) (e := .registered identity) rfl
  exact ⟨w'', hruns.trans hpublish, hw''⟩

/-- Activating a registration that is found. -/
theorem Serves.activate (hw : Serves w h) {identity : String} {e : Registration} (he : h.registry.resolve identity = some e)
    (now : Instant) (m : Message) : ∃ w', CalmRuns ⟨w, f⟩ ⟨w', f⟩ ∧ Serves w' (h.activate now e m).2 := by
  obtain ⟨hshows, hs, hheld, hpublished⟩ := hw
  have hhold : Calm ⟨w, f⟩ ⟨{ w with held := e :: w.held }, f⟩ :=
    .of_same (.hold identity (hshows.registry ▸ he)) rfl rfl hs
  have hstamp := (ReflTransGen.single hhold).tail (.of_same (.stamp [] w.held rfl now) rfl rfl hs)
  have hpublish := hstamp.tail (.of_same (.publish [] w.unpublished rfl hshows.opened) rfl rfl hs)
  rw [hshows.registry] at hpublish
  have hbus := congrArg (fun b => Bus.publish b (.activated e.identity (h.registry.stamp e.place now).1)) hshows.bus
  exact ⟨_, hpublish, ⟨rfl, hbus, hshows.free, hshows.opened⟩, hs, hheld, hpublished⟩

/-- Activating registrations that are found, one after the other. -/
theorem Serves.activateAll (hw : Serves w h) {es : List Registration} (hes : ∀ e ∈ es, ∃ identity, h.registry.resolve identity = some e)
    (m : Message) (now : Nat → Instant) (position : Nat) :
    ∃ w', CalmRuns ⟨w, f⟩ ⟨w', f⟩ ∧ Serves w' (Hub.activateAll m now position es h).2 := by
  induction es generalizing w h position with
  | nil => exact ⟨w, .refl, hw⟩
  | cons e rest ih =>
    obtain ⟨identity, he⟩ := hes e List.mem_cons_self
    obtain ⟨w', hfirst, hw'⟩ := hw.activate (f := f) he (now position) m
    have hrest : ∀ e' ∈ rest, ∃ identity, (h.activate (now position) e m).2.registry.resolve identity = some e' := by
      intro e' he'
      obtain ⟨i, hi⟩ := hes e' (List.mem_cons_of_mem _ he')
      exact ⟨i, (Registry.resolve_stamp _ _ _ _).trans hi⟩
    obtain ⟨w'', hothers, hw''⟩ := ih hw' hrest (position + 1)
    exact ⟨w'', hfirst.trans hothers, hw''⟩

/-- A worker takes on a send. -/
theorem Serves.start? (hw : Serves w h) {h' : Hub} {ticket : Nat} (hs : h.start? ticket = some h') : Serves w h' := by
  obtain ⟨pool, _, rfl⟩ := Option.map_eq_some_iff.mp hs
  exact { hw with shows := ⟨hw.shows.registry, hw.shows.bus, hw.shows.free, hw.shows.opened⟩ }

/-- A target is handed its message and is done with it. -/
theorem Serves.finish? (hw : Serves w h) {h' : Hub} {network : Network} {turn : Turn} {ticket : Nat}
    (hf : h.finish? network turn ticket = some h') : ∃ w', CalmRuns ⟨w, f⟩ ⟨w', f⟩ ∧ Serves w' h' := by
  unfold Hub.finish? at hf
  obtain ⟨s, _, hf⟩ := Option.bind_eq_some_iff.mp hf
  obtain ⟨pool, _, hf⟩ := Option.bind_eq_some_iff.mp hf
  obtain rfl := Option.some.inj hf
  generalize s.send.registration.target.deliver network turn.now h.inbox s.send.message = delivery
  have hevent : (s.send.event ⟨turn.task, delivery.outcome⟩).activation? = none := by
    unfold Send.event
    cases Ended.failure? ⟨turn.task, delivery.outcome⟩ <;> rfl
  have hw' : Serves w { h with
      pool
      inbox := delivery.inbox
      handed := h.handed ++ [s.send]
      logs := h.logs ++ delivery.logs } :=
    { hw with shows := ⟨hw.shows.registry, hw.shows.bus, hw.shows.free, hw.shows.opened⟩ }
  exact hw'.publish hevent

end Uninterrupted

end Persisting

namespace App

open Persisting

variable {settings : Settings} {files : Files} {backend : Backend} {extras : List (String × Target)} {app : App}
  {teardowns : List Teardown} {vault : Vault}

/-- Registering targets with what the store has for them. -/
theorem calm_registerFrom {w : Traffic} {f : Follower} {state : Hub × List Teardown} (hw : Serves w state.1)
    (targets : List (String × Target)) :
    ∃ w', CalmRuns ⟨w, f⟩ ⟨w', f⟩ ∧ Serves w' (targets.foldl (registerFrom f.store) state).1 := by
  induction targets generalizing w state with
  | nil => exact ⟨w, .refl, hw⟩
  | cons t rest ih =>
    obtain ⟨w', hfirst, hw'⟩ := hw.register (f := f) t.1 t.2
    have hw' : Serves w' (registerFrom f.store state t).1 := hw'
    obtain ⟨w'', hrest, hw''⟩ := ih hw'
    exact ⟨w'', hfirst.trans hrest, hw''⟩

/-- Building an application is the beginning of a calm run. -/
theorem calm_build (hb : build settings backend extras files = .ok (app, teardowns)) (hl : Vault.load files backend = .ok vault) :
    ∃ x, CalmRuns (start vault files settings.eventCapacity) x ∧ Serves x.traffic app.hub ∧
      x.follower.At .following app.persister files := by
  let first := start vault files settings.eventCapacity
  have hsubscribe : CalmRuns first ⟨first.traffic, { first.follower with position := 0, stage := .following }⟩ := by
    refine calm_follower ?_ (.single (.subscribe rfl))
    intro hs
    cases hs
  obtain ⟨loaded, targets, hl', -, hassembled⟩ := exists_of_build hb
  obtain rfl := Except.ok.inj (hl.symm.trans hl')
  obtain rfl := (Prod.mk.inj hassembled).1
  have hempty : Serves first.traffic (emptyHub settings, ([] : List Teardown)).1 := ⟨⟨rfl, rfl, rfl, rfl⟩, rfl, rfl, rfl⟩
  obtain ⟨w, hregister, hw⟩ := calm_registerFrom hempty (targets ++ extras)
  exact ⟨_, hsubscribe.trans hregister, hw, ⟨rfl, rfl, rfl, rfl, rfl⟩⟩

/-- What an application does in one piece. -/
inductive Goes : App × Files → App × Files → Prop
  | register {a : App} {files : Files} (identity : String) (target : Target) : Goes (a, files) ((a.register identity target).1, files)
  | dispatch {a : App} {files : Files} {now : Instant} {identity : String} {m : Message} {ticket : Nat} {hub : Hub}
      (h : a.hub.dispatch now identity m = .ok (ticket, hub)) : Goes (a, files) (a.withHub hub, files)
  | call {a : App} {files : Files} {now : Nat → Instant} {data : Value} {tickets : List Nat} {hub : Hub}
      (h : a.hub.callService now data = .ok (tickets, hub)) : Goes (a, files) (a.withHub hub, files)
  /-- The pool takes on a send. -/
  | start {a : App} {files : Files} {ticket : Nat} {hub : Hub} (h : a.hub.start? ticket = some hub) :
      Goes (a, files) (a.withHub hub, files)
  /-- The pool ends a send. -/
  | finish {a : App} {files : Files} {network : Network} {turn : Turn} {ticket : Nat} {hub : Hub}
      (h : a.hub.finish? network turn ticket = some hub) : Goes (a, files) (a.withHub hub, files)
  | follow {a : App} {files : Files} : Goes (a, files) (a.follow, files)
  | tick {a : App} {files : Files} : Goes (a, files) (a.tick files)

/-- It continues a calm run. -/
theorem Goes.calm {a b : App × Files} (h : Goes a b) {x : Persisting} (hx : x.Shows a.1 a.2)
    (hposition : x.follower.position ≤ x.traffic.bus.size) : ∃ y, CalmRuns x y ∧ y.Shows b.1 b.2 := by
  obtain ⟨w, f⟩ := x
  obtain ⟨hw, hat, hpersists⟩ := hx
  have hquiet : w.signalled → w.held = [] ∧ w.unpublished = [] := fun _ => ⟨hw.held, hw.unpublished⟩
  cases h with
  | @register a files identity target =>
    have hstore : f.store = a.store := congrArg Vault.store hat.vault
    obtain ⟨w', hruns, hw'⟩ := hw.register (f := f) identity target
    rw [hstore] at hw'
    exact ⟨_, hruns, hw', hat, hpersists⟩
  | dispatch h =>
    obtain ⟨e, he, rfl⟩ := Hub.exists_of_dispatch h
    obtain ⟨w', hruns, hw'⟩ := hw.activate (f := f) he _ _
    exact ⟨_, hruns, hw', hat, hpersists⟩
  | call h =>
    obtain ⟨m, es, hes, rfl⟩ := Hub.exists_of_callService h
    obtain ⟨w', hruns, hw'⟩ := hw.activateAll (f := f) hes m _ 0
    exact ⟨_, hruns, hw', hat, hpersists⟩
  | start h => exact ⟨_, .refl, hw.start? h, hat, hpersists⟩
  | finish h =>
    obtain ⟨w', hruns, hw'⟩ := hw.finish? (f := f) h
    exact ⟨_, hruns, hw', hat, hpersists⟩
  | @follow a files =>
    have hpersists : a.persists = true := hpersists
    rw [hat.position] at hposition
    obtain ⟨g, hsteps, hat'⟩ := hat.follow hposition (.inl ⟨rfl, rfl⟩)
    refine ⟨⟨w, g⟩, calm_follower hquiet hsteps, ?_⟩
    rw [hw.shows.bus, hw.shows.registry] at hat'
    simp only [App.follow, hpersists, if_true]
    exact ⟨hw, hat', rfl⟩
  | @tick a files =>
    have hpersists : a.persists = true := hpersists
    obtain ⟨g, hsteps, hat'⟩ := hat.tick (w := w)
    refine ⟨⟨w, g⟩, calm_follower hquiet hsteps, ?_⟩
    rw [hw.shows.registry] at hat'
    simp only [App.tick, hpersists, if_true]
    exact ⟨hw, hat', rfl⟩

/-- Whether an application can be built is a matter of its settings, once its backend is loaded. -/
theorem isOk_build (hl : Vault.load files backend = .ok vault) (settings : Settings) (extras : List (String × Target)) :
    (build settings backend extras files).isOk = (build settings .emptyMemory [] {}).isOk := by
  have hempty : Vault.load {} .emptyMemory = .ok ⟨⟨[], false⟩, .emptyMemory⟩ := rfl
  unfold build
  rw [hl, hempty]
  split
  · rfl
  · dsimp only
    split
    · rfl
    · split <;> rfl

/-- A shutdown saves what the persister saved at its end, with the last activations of the registry. -/
theorem shutdown_eq (hpersists : app.persists) {persister : Persister} {saved : Files}
    (hf : app.persister.finish app.hub.bus app.activations files = (persister, saved)) :
    let flushed := (persister.vault.modify fun s => s.sync app.activations).flush saved
    (app.shutdown files).vault = flushed.1 ∧ (app.shutdown files).files = flushed.2.1 ∧
      ((app.shutdown files).result = .ok () → flushed.2.2.isOk) := by
  unfold shutdown
  simp only [hpersists, if_true, hf, true_and]
  intro hok
  split at hok
  · cases hok
  · next heq => exact congrArg Except.isOk heq

/-- Shutting an application down without a failure ends its life. -/
theorem life_of_shutdown {capacity : Nat} {x : Persisting} {files' : Files} (hl : Vault.load files backend = .ok vault)
    (hlivable : Livable files backend) (hrun : CalmRuns (start vault files capacity) x) (hx : x.Shows app files')
    (hok : (app.shutdown files').result = .ok ()) :
    Life files backend app.hub.registry (app.shutdown files').files (app.shutdown files').vault.backend := by
  obtain ⟨w, f⟩ := x
  obtain ⟨⟨hw, _, hheld, hpublished⟩, hat, hpersists⟩ := hx
  have hposition := ((sound_start hl hlivable.tree hlivable.version capacity).runs hrun.runs).follower.position
  rw [hat.position] at hposition
  -- the signal is given, and the persister returns
  let w' : Traffic := { w with signalled := true }
  have hquiet : w'.signalled → w'.held = [] ∧ w'.unpublished = [] := fun _ => ⟨hheld, hpublished⟩
  have hsignal : Calm ⟨w, f⟩ ⟨w', f⟩ := ⟨.traffic .signal, fun _ hc => hc, fun a ha => .inl ha, hquiet⟩
  obtain ⟨g, hfinish, hfinished⟩ := hat.finish (w := w') hposition rfl
  have hreturned := (hrun.tail hsignal).trans (calm_follower hquiet hfinish)
  rcases hf : app.persister.finish app.hub.bus app.activations files' with ⟨persister, saved⟩
  have hactivations : w'.registry.activations = app.activations := congrArg Registry.activations hw.registry
  have hbus : w'.bus = app.hub.bus := hw.bus
  rw [hactivations, hbus, hf] at hfinished
  -- the registry is asked once more
  have hasked := calm_follower hquiet (Follower.steps_ask g .last)
  rw [hactivations] at hasked
  have hsynced : g.flushing.step (.sync app.activations) =
      ⟨persister.vault.modify fun s => s.sync app.activations, saved, .idle, g.flushing.saves⟩ := by
    rw [Flushing.step, hfinished.vault, hfinished.files, hfinished.idle]
  -- the store is flushed
  have hlast : Occasion.last ≠ .lag := by
    intro h
    cases h
  have hflush := (Follower.steps_flush (w := { w' with registry := w'.registry.removeAll }) (x := { g with
    flushing := g.flushing.step (.sync app.activations)
    stage := .recording [] .last
    asked := app.activations
    due := w'.live
    reported := app.activations }) rfl hlast).tail (.finish rfl)
  obtain ⟨hvault, hfiles, hflushed⟩ := shutdown_eq hpersists hf
  obtain ⟨hstored, hwritten, _, hsaved⟩ :=
    Flushing.run_flush (persister.vault.modify fun s => s.sync app.activations) saved g.flushing.saves
  rw [← hsynced] at hstored hwritten hsaved
  exact ⟨hl, hreturned, hfinished.stage, rfl, .refl _, hasked, rfl, hw.free, hw.registry.symm, runs_follower hflush, rfl,
    hsaved.trans (hflushed hok), hfiles.trans hwritten.symm, congrArg Vault.backend (hvault.trans hstored.symm)⟩

/-- Any number of things that an application does continue a calm run. -/
theorem calm_goes {loaded : Store} {a b : App × Files} (h : ReflTransGen Goes a b) {x : Persisting} (hs : x.Sound loaded)
    (hx : x.Shows a.1 a.2) : ∃ y, CalmRuns x y ∧ y.Shows b.1 b.2 := by
  induction h with
  | refl => exact ⟨x, .refl, hx⟩
  | tail _ hstep ih =>
    obtain ⟨y, hruns, hy⟩ := ih
    obtain ⟨z, hgoes, hz⟩ := hstep.calm hy (hs.runs hruns.runs).follower.position
    exact ⟨z, hruns.trans hgoes, hz⟩

/-- They leave its tasks, and whether its persister runs. -/
theorem tasks_goes {a b : App × Files} (h : ReflTransGen Goes a b) : b.1.supervisor = a.1.supervisor ∧ b.1.persists = a.1.persists := by
  induction h with
  | refl => exact ⟨rfl, rfl⟩
  | tail _ hstep ih =>
    cases hstep with
    | follow =>
      unfold App.follow
      split <;> exact ih
    | tick =>
      unfold App.tick
      split <;> exact ih
    | _ => exact ih

/-- The persister of an application that was built runs if it was given an interval. If it was not, its task broke off. -/
theorem tasks_build (hb : build settings backend extras files = .ok (app, teardowns)) :
    app.supervisor = tasks settings.state.flushIntervalSeconds ∧ app.persists = (settings.state.flushIntervalSeconds != 0) := by
  obtain ⟨vault, targets, -, -, hassembled⟩ := exists_of_build hb
  obtain rfl := (Prod.mk.inj hassembled).1
  exact ⟨rfl, rfl⟩

/-- A shutdown without a failure is one of an application whose persister was given an interval. -/
theorem interval_of_shutdown {seconds : Nat} (hs : app.supervisor = tasks seconds) (hok : (app.shutdown files).result = .ok ()) :
    seconds ≠ 0 := by
  rintro rfl
  unfold shutdown at hok
  rw [hs] at hok
  dsimp only at hok
  split at hok <;> cases hok

/-- An application that was built, did anything in one piece, and was shut down without a failure lived a life. -/
theorem life_of_goes {app' : App} {files' : Files} (hb : build settings backend extras files = .ok (app, teardowns))
    (hl : Vault.load files backend = .ok vault) (hlivable : Livable files backend)
    (hgoes : ReflTransGen Goes (app, files) (app', files')) (hok : (app'.shutdown files').result = .ok ()) :
    Life files backend app'.hub.registry (app'.shutdown files').files (app'.shutdown files').vault.backend := by
  obtain ⟨hsupervisor, hruns⟩ := tasks_build hb
  obtain ⟨hsupervisor', _⟩ := tasks_goes hgoes
  have hinterval := interval_of_shutdown (hsupervisor'.trans hsupervisor) hok
  obtain ⟨x, hbuild, hw, hat⟩ := calm_build hb hl
  have hsound := (sound_start hl hlivable.tree hlivable.version _).runs hbuild.runs
  have hx : x.Shows app files := ⟨hw, hat, hruns.trans (bne_iff_ne.mpr hinterval)⟩
  obtain ⟨y, hcalm, hy⟩ := calm_goes hgoes hsound hx
  exact life_of_shutdown hl hlivable (hbuild.trans hcalm) hy hok

/-- After any number of lives over a backend it is loaded and gives back, of every identity, what is remembered of it. The next application
can be built if its settings allow it, and whatever it registers shows what is remembered, before anything else is stamped; if it is shut
down without a failure, and its targets were last notified at times that a clock can show, that was one more life. -/
theorem activations_survive_restarts {files' : Files} {backend' : Backend} {lasts : List Registry} (hlivable : Livable files backend)
    (h : Lives files backend lasts files' backend') :
    ∃ vault vault', Vault.load files backend = .ok vault ∧ Vault.load files' backend' = .ok vault' ∧
      (∀ identity, vault'.store.restored identity = remembered vault.store lasts identity) ∧
      (∀ settings extras, (build settings backend' extras files').isOk = (build settings .emptyMemory [] {}).isOk ∧
        ∀ app teardowns, build settings backend' extras files' = .ok (app, teardowns) →
          (∀ identity e, app.hub.registry.resolve identity = some e →
            app.hub.registry.lastNotified e.place = remembered vault.store lasts identity) ∧
          ∀ last left, ReflTransGen Goes (app, files') (last, left) →
            (∀ path, backend' = .file path → ∀ a ∈ last.activations, a.2.OnClock) → (last.shutdown left).result = .ok () →
            Lives files backend (lasts ++ [last.hub.registry]) (last.shutdown left).files (last.shutdown left).vault.backend) ∧
      ∀ capacity x, CalmRuns (start vault' files' capacity) x → x.traffic.given = [] →
        ∀ identity e, x.traffic.registry.resolve identity = some e →
          x.traffic.registry.lastNotified e.place = remembered vault.store lasts identity := by
  obtain ⟨vault, hl⟩ := hlivable.load
  obtain ⟨vault', hl', hlivable', hrestored⟩ := h.restored_eq hl hlivable
  refine ⟨vault, vault', hl, hl', congrFun hrestored, ?_, ?_⟩
  · intro settings extras
    refine ⟨isOk_build hl' settings extras, ?_⟩
    intro app teardowns hb
    constructor
    · intro identity e he
      rw [← hrestored]
      exact (mirrors_build hb hl').shown he
    · intro last left hgoes hclock hok
      exact .more h (life_of_goes hb hl' hlivable' hgoes hok) hclock
  · intro capacity x hx hg identity e he
    rw [← hrestored]
    exact ((tame_start hl' hlivable'.tree hlivable'.version capacity).runs hx).lastNotified_eq hg he

/-- A target is dispatched to, and after a restart it shows the stamp. -/
theorem stamp_survives_restart :
    ∃ last files backend, Lives {} .emptyMemory [last] files backend ∧
      ∀ settings extras app teardowns, build settings backend extras files = .ok (app, teardowns) →
        ∀ e, app.hub.registry.resolve "a" = some e → app.hub.registry.lastNotified e.place = some .epoch := by
  let settings : Settings := { Settings.standard 1 with eventCapacity := 4 }
  let hub (b : Bus) : Hub := (Hub.register { bus := b, pool := .ofWorkers 1 } none "a" { channel := .log }).1
  let app (b : Bus) : App := ⟨hub b, ⟨⟨⟨[], false⟩, .emptyMemory⟩, 0⟩, true, tasks 5, some (.ofSeconds 30)⟩
  let dispatched : Hub := ((hub ⟨4, []⟩).activate .epoch ⟨"a", 0, 0, { channel := .log }⟩ { message := some "hello" }).2
  have hl : Vault.load {} .emptyMemory = .ok ⟨⟨[], false⟩, .emptyMemory⟩ := rfl
  have hlivable : Livable {} .emptyMemory := ⟨Files.tree_of_empty rfl, rfl, fun _ h => (by cases h)⟩
  have hcapacity : Bus.ofCapacity 4 = ⟨4, []⟩ := by cbv
  have hb : build settings .emptyMemory [("a", { channel := .log })] {} = .ok (app (.ofCapacity 4), []) := rfl
  rw [hcapacity] at hb
  have hdispatch : (app ⟨4, []⟩).hub.dispatch .epoch "a" { message := some "hello" } = .ok (0, dispatched) := rfl
  have hok : (((app ⟨4, []⟩).withHub dispatched).shutdown {}).result = .ok () := rfl
  have hlife := life_of_goes hb hl hlivable (.single (.dispatch hdispatch)) hok
  have hlives := Lives.more .none hlife fun _ h => by cases h
  obtain ⟨vault, _, hl', _, _, hshows, _⟩ := activations_survive_restarts hlivable hlives
  obtain rfl := Except.ok.inj (hl.symm.trans hl')
  refine ⟨_, _, _, hlives, ?_⟩
  intro settings' extras app' teardowns hbuild e he
  rw [((hshows settings' extras).2 app' teardowns hbuild).1 "a" e he]
  rfl

end App

end Herald
