import Herald.Proofs.Sending

/-!
# Runs in which nothing is sent

Where no dispatch is accepted, nothing is saved: not by the persister, in whatever order its steps and all others come
(`Persisting.Sound.flushing_eq`), and not by an application, whatever else it does (`App.Still`). Every activation that is found anywhere was
loaded then, so that every record finds it in the store already, and no record sets the mark.
-/

namespace Herald

open Relation (ReflTransGen)

/-! ## Among the steps of all others -/

/-- Recording what is reached leaves everything as it is. -/
theorem Flushing.step_record_of_reaches {x : Flushing} {identity : String} {t : Instant} (h : x.store.Reaches identity t) :
    x.step (.record identity t) = x := by
  rw [step, Vault.modify, h.record_eq]

namespace Follower

variable {vault : Vault} {files : Files} {saves : Nat} {w : Traffic} {x x' : Follower}

/-- A step of the persister leaves the store, the backend and the files, while nothing is stamped and nothing is to be saved. -/
theorem Step.flushing_eq (hstep : Step w x x') (h : x.Sound vault.store w) (hw : w.Sound vault.store) (hg : w.given = [])
    (hclean : vault.store.dirty = false) (hx : x.flushing = ⟨vault, files, .idle, saves⟩) : x'.flushing = x.flushing := by
  -- without a stamp all that is accounted for was loaded
  have hreaches {identity : String} {t : Instant} (ha : Accounted vault.store w.given identity t) : x.store.Reaches identity t := by
    rcases ha with hloaded | ⟨g, hmem, -⟩
    · rw [store, hx]
      exact ⟨t, hloaded, Std.le_refl t⟩
    · rw [hg] at hmem
      cases hmem
  cases hstep with
  | record hs hr => exact Flushing.step_record_of_reaches (hreaches (hw.published (Bus.mem_published_of_receive hr)))
  | sync hs => exact Flushing.step_record_of_reaches (hreaches ((h.recording hs).accounted List.mem_cons_self))
  | advance hs =>
    obtain ⟨refusal, hmem⟩ := (h.flushing hs).phase.mem_flush
    refine Flushing.step_of_clean ?_ ?_ hmem
    · rw [hx]
    · rw [hx]
      exact hclean
  | subscribe | pass | lag | tick | leave | skip | drained | read | collected | resume | flush | proceed | finish => rfl

end Follower

namespace Persisting

/-- A run in which nothing is stamped leaves the store, the backend and the files. -/
theorem Sound.flushing_eq {vault : Vault} {files : Files} {saves : Nat} {x y : Persisting} (h : x.Sound vault.store)
    (hclean : vault.store.dirty = false) (hx : x.follower.flushing = ⟨vault, files, .idle, saves⟩) (hruns : Runs x y)
    (hg : y.traffic.given = []) : y.follower.flushing = ⟨vault, files, .idle, saves⟩ := by
  induction hruns with
  | refl => exact hx
  | tail hbefore hstep ih =>
    obtain ⟨htraffic, hfollower⟩ := h.runs hbefore
    cases hstep with
    | traffic hw => exact ih (List.subset_nil.mp (hg ▸ hw.grown.given))
    | follower hf =>
      have hbefore := ih hg
      exact (hf.flushing_eq hfollower htraffic hg hclean hbefore).trans hbefore

end Persisting

/-! ## In one piece -/

namespace App

/-- What an application does without a dispatch that is accepted. Look-ups and listings leave it as it is. -/
inductive Refrains : App × Files → App × Files → Prop
  | register {a : App} {files : Files} (identity : String) (target : Target) : Refrains (a, files) ((a.register identity target).1, files)
  | unregister {a : App} {files : Files} (identity : String) : Refrains (a, files) (a.withHub (a.hub.unregister identity).1, files)
  | clear {a : App} {files : Files} : Refrains (a, files) (a.withHub a.hub.clear.1, files)
  /-- A dispatch is rejected. -/
  | dispatch {a : App} {files : Files} {now : Instant} {identity : String} {m : Message} {e : DispatchError} {hub : Hub}
      (h : (Hub.Operation.dispatch now identity m).run a.hub = (.error e, hub)) : Refrains (a, files) (a.withHub hub, files)
  /-- A service call is rejected. -/
  | call {a : App} {files : Files} {now : Nat → Instant} {data : Value} {e : DispatchError} {hub : Hub}
      (h : (Hub.Operation.callService now data).run a.hub = (.error e, hub)) : Refrains (a, files) (a.withHub hub, files)
  /-- The pool and the persister do their work, and the persister saves from time to time. -/
  | works {x y : App × Files} (h : Works x y) : Refrains x y

/-- An idle application whose targets show what the store has for them. -/
structure Still (loaded : Vault) (a : App) : Prop where
  idle : a.Idle loaded
  mirrors : a.hub.registry.Mirrors loaded.store

variable {a : App} {x y : App × Files} {loaded : Vault}

/-- It stays so with another hub that shows this, if no activation is published and nothing is sent. -/
theorem Still.withHub (h : a.Still loaded) {hub : Hub} (hpool : hub.pool = a.hub.pool)
    (hbus : ∀ e ∈ hub.bus.published, e ∈ a.hub.bus.published ∨ e.activation? = none) (hmirrors : hub.registry.Mirrors loaded.store) :
    (a.withHub hub).Still loaded where
  idle := {
    unchanged := h.idle.unchanged
    saved := h.idle.saved
    unsent := hpool ▸ h.idle.unsent
    unpublished := fun e he => (hbus e he).elim (h.idle.unpublished e) id
    shown := fun _ hp => hmirrors.restored_of_mem hp }
  mirrors := hmirrors

/-- Publishing something that is no activation adds no activation. -/
theorem mem_publish {b : Bus} {e f : Event} (hf : f.activation? = none) (he : e ∈ (b.publish f).published) :
    e ∈ b.published ∨ e.activation? = none := by
  rcases List.mem_append.mp he with he | he
  · exact .inl he
  · exact .inr (List.mem_singleton.mp he ▸ hf)

theorem Still.register (h : a.Still loaded) (identity : String) (target : Target) : (a.register identity target).1.Still loaded := by
  have hstore : a.store = loaded.store := congrArg Vault.store h.idle.unchanged
  have hmirrors := h.mirrors.register identity target
  rw [← hstore] at hmirrors
  exact h.withHub rfl (fun _ he => mem_publish rfl he) (hstore ▸ hmirrors)

theorem Still.unregister (h : a.Still loaded) (identity : String) : (a.withHub (a.hub.unregister identity).1).Still loaded := by
  unfold Hub.unregister Registry.unregister
  cases a.hub.registry.resolve identity with
  | none => exact h
  | some e => exact h.withHub rfl (fun _ he => mem_publish rfl he) (h.mirrors.remove identity)

theorem Still.clear (h : a.Still loaded) : (a.withHub a.hub.clear.1).Still loaded := by
  refine h.withHub rfl ?_ (Registry.mirrors_of_empty rfl loaded.store)
  intro e he
  rcases List.mem_append.mp he with he | he
  · exact .inl he
  · obtain ⟨t, -, rfl⟩ := List.mem_map.mp he
    exact .inr rfl

/-- Whatever it does without an accepted dispatch, an application stays still, and the files stay as they are. -/
theorem Still.refrains (h : x.1.Still loaded) (hstep : Refrains x y) : y.1.Still loaded ∧ y.2 = x.2 := by
  cases hstep with
  | register identity target => exact ⟨h.register identity target, rfl⟩
  | unregister identity => exact ⟨h.unregister identity, rfl⟩
  | clear => exact ⟨h.clear, rfl⟩
  | @dispatch a files now identity m e hub hrun =>
    have hsame : hub = a.hub := by
      rw [Hub.run_dispatch] at hrun
      split at hrun
      · cases hrun
      · exact (Prod.mk.inj hrun).2.symm
    subst hsame
    exact ⟨h, rfl⟩
  | @call a files now data e hub hrun =>
    have hsame : hub = a.hub := by
      cases hr : a.hub.refusalOfCall? data with
      | none =>
        obtain ⟨_, _, _, _, _, -, -, hok, -⟩ := Hub.run_callService_of_none h.mirrors.sound now hr
        cases hrun.symm.trans hok
      | some e' => exact (Prod.mk.inj (hrun.symm.trans (Hub.run_callService_of_refusal hr))).2
    subst hsame
    exact ⟨h, rfl⟩
  | works hw =>
    obtain ⟨hidle, hhub, hfiles⟩ := h.idle.works hw
    exact ⟨⟨hidle, hhub ▸ h.mirrors⟩, hfiles⟩

/-- So it is after any number of such things. -/
theorem Still.runs (h : x.1.Still loaded) (hruns : ReflTransGen Refrains x y) : y.1.Still loaded ∧ y.2 = x.2 := by
  induction hruns with
  | refl => exact ⟨h, rfl⟩
  | tail _ hstep ih =>
    obtain ⟨hstill, hfiles⟩ := ih
    obtain ⟨hstill', hfiles'⟩ := hstill.refrains hstep
    exact ⟨hstill', hfiles'.trans hfiles⟩

/-- There is nothing to save, neither from time to time nor at the end. -/
theorem Still.dirty_sync (h : a.Still loaded) : (a.store.sync a.activations).dirty = false := by
  have hstore : a.store = loaded.store := congrArg Vault.store h.idle.unchanged
  rw [hstore, sync_of_restored h.idle.shown]
  exact h.idle.saved

open Persisting in
/-- Whatever a backend held that can be loaded: while no dispatch is accepted, no save is begun, and the store, the backend and the files stay
as they were loaded. So it is of the persister among any steps of all others, also when the registry is asked for the last time, and of an
application over its whole run, which never has anything to save. -/
theorem nothing_is_saved_without_a_dispatch {files : Files} {backend : Backend} (hlivable : Livable files backend) :
    ∃ vault, Vault.load files backend = .ok vault ∧
      (∀ capacity x, Runs (start vault files capacity) x → x.traffic.given = [] →
        x.follower.flushing = ⟨vault, files, .idle, 0⟩ ∧
        ∀ left y, left.Perm x.traffic.registry.registered → Runs ⟨x.traffic, x.follower.ask x.traffic left .last⟩ y →
          y.traffic.given = [] → y.follower.flushing = ⟨vault, files, .idle, 0⟩) ∧
      ∀ settings extras app teardowns, build settings backend extras files = .ok (app, teardowns) →
        ∀ last left, ReflTransGen Refrains (app, files) (last, left) →
          last.persister.vault = vault ∧ left = files ∧ (last.store.sync last.activations).dirty = false ∧
            (last.shutdown left).vault = vault ∧ (last.shutdown left).files = files := by
  obtain ⟨vault, hl⟩ := hlivable.load
  have hclean := Vault.dirty_of_load hl
  refine ⟨vault, hl, ?_, ?_⟩
  · intro capacity x hx hg
    have hstart := sound_start hl hlivable.tree hlivable.version capacity
    have hflushing := hstart.flushing_eq hclean rfl hx hg
    refine ⟨hflushing, fun left y hleft hy hgy => ?_⟩
    -- the registry is asked once more, whatever the persister was about
    obtain ⟨htraffic, hfollower⟩ := hstart.runs hx
    have hidle : x.follower.flushing.progress = .idle := by rw [hflushing]
    have hasked : Persisting.Sound vault.store ⟨x.traffic, x.follower.ask x.traffic left .last⟩ :=
      ⟨htraffic, hfollower.ask htraffic hidle hleft hfollower.position .last⟩
    exact hasked.flushing_eq hclean hflushing hy hgy
  · intro settings extras app teardowns hb last left hruns
    obtain ⟨hstill, rfl⟩ := Still.runs ⟨idle_build hb hl, mirrors_build hb hl⟩ hruns
    exact ⟨hstill.idle.unchanged, rfl, hstill.dirty_sync, hstill.idle.shutdown _⟩

open Persisting in
/-- Over a file that cannot be read, a target is registered, another one removed, a dispatch to that one rejected, and it is time to save:
the file stays as it is. -/
theorem unreadable_file_is_left :
    ∃ (files : Files) (settings : Settings) (extras : List (String × Target)) (app last : App) (teardowns : List Teardown) (left : Files),
      files.read "state.json" = .ok "?" ∧ extras.map (·.1) = ["a"] ∧ Livable files (.file "state.json") ∧
      build settings (.file "state.json") extras files = .ok (app, teardowns) ∧ ReflTransGen Refrains (app, files) (last, left) ∧
      last.hub.registry.contains "a" = false ∧ last.hub.registry.contains "b" = true ∧
      (last.shutdown left).files.read "state.json" = .ok "?" := by
  let files : Files := ({} : Files).put ["state.json"] (.text "?")
  let target : Target := { channel := .log }
  have hread : files.read "state.json" = .ok "?" := by
    have hresolve : files.resolve "state.json" = .ok ["state.json"] := Files.resolve_eq_ok.mpr ⟨by decide, rfl⟩
    rw [Files.read_eq, hresolve]
    rfl
  have hunreadable : Snapshot.ofText? "?" = none := by decide
  have hlivable : Livable files (.file "state.json") := by
    refine ⟨(Files.tree_of_empty rfl).put (by decide) rfl _, .inr ⟨"?", hread, fun s hs => ?_⟩⟩
    cases hunreadable.symm.trans hs
  have hl : Vault.load files (.file "state.json") = .ok ⟨.ofSnapshot .empty, .file "state.json"⟩ := by
    simp only [Vault.load, Backend.load, StateFile.load, hread, hunreadable, bind, Except.bind]
    rfl
  let built := assembled (Settings.standard 1) ⟨.ofSnapshot .empty, .file "state.json"⟩ [("a", target)]
  let app := built.1
  have hb : build (Settings.standard 1) (.file "state.json") [("a", target)] files = .ok (app, built.2) :=
    build_eq hl (by decide) (by decide)
  let registered := (app.register "b" target).1
  let removed := registered.withHub (registered.hub.unregister "a").1
  have hgone : removed.hub.registry.contains "a" = false := by decide +kernel
  have hleft : removed.hub.registry.contains "b" = true := by decide +kernel
  have hrefused : removed.hub.refusal? {} "a" = some (.targetNotFound "a") := by
    have hnone : removed.hub.registry.resolve "a" = none := by simpa [Registry.contains] using hgone
    rw [Hub.refusal?, hnone]
  have hrun : (Hub.Operation.dispatch .epoch "a" {}).run removed.hub = _ := Hub.run_dispatch_of_refusal hrefused
  have hregister : ReflTransGen Refrains (app, files) (registered, files) := .single (.register "b" target)
  have hremove : ReflTransGen Refrains (app, files) (removed, files) := hregister.tail (.unregister "a")
  have hreject : ReflTransGen Refrains (app, files) (removed, files) := hremove.tail (.dispatch hrun)
  rcases hafter : removed.tick files with ⟨last, left⟩
  have htick : ReflTransGen Refrains (app, files) (last, left) := hafter ▸ hreject.tail (.works .tick)
  have hhub : last.hub = removed.hub := by rw [← hub_tick removed files, hafter]
  obtain ⟨vault, -, -, hall⟩ := nothing_is_saved_without_a_dispatch hlivable
  obtain ⟨-, -, -, -, hfiles⟩ := hall _ _ app built.2 hb last left htick
  refine ⟨files, Settings.standard 1, [("a", target)], app, last, built.2, left, hread, rfl, hlivable, hb, htick, ?_, ?_, ?_⟩
  · rw [hhub]
    exact hgone
  · rw [hhub]
    exact hleft
  · rw [hfiles]
    exact hread

end App

end Herald
