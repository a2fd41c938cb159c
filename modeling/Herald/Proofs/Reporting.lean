import Herald.Proofs.Arguments
import Herald.Proofs.Sending

/-!
# What the command reports and records

A run of the command up to the shutdown (`Program.Ends`) is an application that was built, a call that is rejected or all of whose targets are
activated and waited for, and the work of the pool and the persister in between. A rejected call leaves nothing behind. Of any other, what is
printed tells of each send how it went (`Program.Reported`), and what is saved are the activations, whether or not their sends succeeded
(`Program.Recorded`): the shutdown saves what the registry shows.
-/

namespace Herald

open Relation (ReflTransGen)

namespace Program

/-- Why the call of some arguments is rejected, if it is: the data cannot be read, the call is invalid, or a target refuses. -/
def rejection? (h : Hub) (a : SendArguments) : Option Failure :=
  match a.serviceData with
  | .error failure => some failure
  | .ok data => (h.refusalOfCall? data).map fun e => ⟨e.message, []⟩

/-- How long every send is waited for. -/
def limit (settings : Settings) (a : SendArguments) : Option Span :=
  (a.timeoutSeconds.map .ofSeconds).or (settings.dispatch.defaultTimeoutSeconds.map .ofSeconds)

/-- The results of the registrations that were found. -/
def results (es : List Registration) (answers : List Answer) : List (String × Except DispatchError Unit) :=
  List.zipWith (fun e x => (e.identity, x.result)) es answers

/-- A run of the command that sends, up to the shutdown: an application is built and its pool and its persister do their work, and
meanwhile the call is rejected, or all its targets are found and activated and all its sends are waited for. -/
inductive Ends (settings : Settings) (a : SendArguments) (now : Nat → Instant) (files : Files) :
    List Answer → CommandResult → App → Files → Prop
  | rejected {app last : App} {teardowns : List Teardown} {left : Files} {failure : Failure}
    (hb : App.build settings (App.backend settings.state) [] files = .ok (app, teardowns))
    (hworks : ReflTransGen App.Works (app, files) (last, left)) (hr : rejection? last.hub a = some failure) :
    Ends settings a now files [] { result := .error failure, hub := last.hub } last left
  | answered {app first last : App} {teardowns : List Teardown} {found left : Files} {data : Value} {call : Call}
    {es : List Registration} {x : Sending} {answers : List Answer}
    (hb : App.build settings (App.backend settings.state) [] files = .ok (app, teardowns))
    (hbefore : ReflTransGen App.Works (app, files) (first, found))
    -- the call is read, and its targets are found
    (hd : a.serviceData = .ok data) (hc : Call.ofValue data = .ok call) (hes : call.targets.mapM (first.hub.check call.message) = .ok es)
    -- they are activated, and the sends are waited for
    (hruns : ReflTransGen (Sending.Step call.message now (limit settings a)) ⟨first, found, es, []⟩ x) (hleft : x.left = [])
    (hall : x.waits.map (·.2) = answers.map some)
    (hafter : ReflTransGen App.Works (x.app, x.files) (last, left)) :
    Ends settings a now files answers (report (results es answers) es.length last.hub) last left

/-- What is said of a send: that it was sent if it had been by then, and how it failed or that the limit was over if not. -/
inductive Says (limit : Option Span) : Submission → String → Prop
  | sent {s : Send} {task : Nat} : Says limit ⟨s, .finished ⟨task, .sent⟩⟩ (s.registration.identity ++ "\tsent\n")
  | failed {s : Send} {o : Ended} {f : Failure} (ho : o.failure? = some f) :
    Says limit ⟨s, .finished o⟩
      (s.registration.identity ++ "\tfailed: " ++ (DispatchError.sendFailure s.registration.identity f).message ++ "\n")
  | expired {s : Send} {phase : Phase} {span : Span} (hl : limit = some span) (hp : ∀ o, phase ≠ .finished o) :
    Says limit ⟨s, phase⟩ (s.registration.identity ++ "\tfailed: " ++ (DispatchError.timeout s.registration.identity span).message ++ "\n")

/-! ## Rejections -/

variable {h h' : Hub} {a : SendArguments}

/-- A call all of whose targets are found is not rejected. -/
theorem rejection?_of_found {data : Value} {call : Call} {es : List Registration} (hd : a.serviceData = .ok data)
    (hc : Call.ofValue data = .ok call) (hes : call.targets.mapM (h.check call.message) = .ok es) : rejection? h a = none := by
  have hnone : h.refusalOfCall? data = none := by
    rw [Hub.refusalOfCall?, hc]
    rcases h.mapM_check call.message call.targets with ⟨e, -, hm⟩ | ⟨-, hf, -, -⟩
    · rw [hes] at hm
      cases hm
    · exact hf
  rw [rejection?, hd]
  simp only [hnone, Option.map_none]

/-! ## The end of a run -/

/-- The code is zero if the shutdown and the command both succeeded. -/
theorem code_close {done : CommandResult} {last : App} {left : Files} (hok : ((last.withHub done.hub).shutdown left).result = .ok ()) :
    (close done last left).code = match done.result with
      | .ok () => 0
      | .error _ => 1 := by
  unfold close
  dsimp only
  rw [hok]
  cases done.result <;> rfl

/-- What the command printed is what the run printed. -/
theorem output_close (done : CommandResult) (last : App) (left : Files) : (close done last left).output = done.output :=
  rfl

/-- What fits a send is told of it. -/
theorem says_of_fits {limit : Option Span} {s : Send} {x : Answer} (hx : x.Fits limit s) :
    Says limit x.seen (sendLine s.registration.identity x.result) := by
  cases hx with
  | ended o =>
    cases hf : o.failure? with
    | none =>
      obtain ⟨task, o⟩ := o
      obtain rfl : o = .sent := by cases o <;> first | rfl | cases hf
      exact .sent
    | some f =>
      rw [Send.result, hf]
      exact .failed hf
  | expired hl hp => exact .expired hl hp

/-- Who is told that a send succeeded has seen it sent. -/
theorem result_eq_ok_iff {limit : Option Span} {s : Send} {x : Answer} (hx : x.Fits limit s) :
    x.result = .ok () ↔ ∃ task, x.seen.phase = .finished ⟨task, .sent⟩ := by
  cases hx with
  | ended o =>
    obtain ⟨task, o⟩ := o
    cases o <;> simp [Send.result, Ended.failure?]
  | expired hl hp =>
    refine iff_of_false (fun h => by cases h) ?_
    rintro ⟨task, h⟩
    exact hp _ h

/-- A report is a success if all results are. -/
theorem result_report (rs : List (String × Except DispatchError Unit)) (total : Nat) (hub : Hub) :
    (report rs total hub).result = .ok () ↔ ∀ r ∈ rs, r.2 = .ok () := by
  have hzero (p : String × Except DispatchError Unit → Bool) (hp : ∀ r, p r = false ↔ r.2 = .ok ()) :
      rs.countP p = 0 ↔ ∀ r ∈ rs, r.2 = .ok () := by
    rw [List.countP_eq_zero]
    exact forall₂_congr fun r _ => by rw [Bool.not_eq_true, hp]
  rw [report]
  dsimp only
  split
  · next h =>
    refine iff_of_true rfl ((hzero _ fun r => ?_).mp h)
    rcases r with ⟨identity, e | u⟩ <;> simp
  · next h =>
    refine iff_of_false (fun h => by cases h) fun hall => h ((hzero _ fun r => ?_).mpr hall)
    rcases r with ⟨identity, e | u⟩ <;> simp

end Program

/-! ## What is recorded -/

namespace App

variable {path : String} {x y : App × Files}

/-- A flush saves to the file it saved to before. -/
theorem backend_flush {v : Vault} (h : v.backend = .file path) (files : Files) : (v.flush files).1.backend = .file path := by
  obtain ⟨store, backend⟩ := v
  obtain rfl : backend = .file path := h
  rw [Vault.flush]
  split
  · rfl
  · dsimp only
    split <;> rename_i heq <;> exact congrArg Prod.fst heq |>.symm

theorem backend_follow {p : Persister} (h : p.vault.backend = .file path) (bus : Bus) (source : List (String × Instant)) :
    (p.follow bus source).vault.backend = .file path := by
  have key (receipts : List Receipt) (v : Vault) (hv : v.backend = .file path) :
      (receipts.foldl (Persister.handle source) v).backend = .file path := by
    induction receipts generalizing v with
    | nil => exact hv
    | cons r rest ih =>
      refine ih _ ?_
      cases r with
      | lagged missed => exact hv
      | event e => cases e <;> exact hv
  exact key _ _ h

theorem backend_tick {p : Persister} (h : p.vault.backend = .file path) (source : List (String × Instant)) (files : Files) :
    (p.tick source files).1.vault.backend = .file path :=
  backend_flush (show (p.vault.modify fun s => s.sync source).backend = .file path from h) files

/-- The application saves to the file it saved to before. -/
theorem backend_goes (h : Goes x y) (hx : x.1.persister.vault.backend = .file path) : y.1.persister.vault.backend = .file path := by
  cases h with
  | @follow a files =>
    rw [App.follow]
    split
    · exact backend_follow hx _ _
    · exact hx
  | @tick a files =>
    rw [App.tick]
    split
    · exact backend_tick hx a.activations files
    · exact hx
  | _ => exact hx

theorem backend_runs (h : ReflTransGen Goes x y) (hx : x.1.persister.vault.backend = .file path) :
    y.1.persister.vault.backend = .file path := by
  induction h with
  | refl => exact hx
  | tail _ hstep ih => exact backend_goes hstep ih

/-- So does the shutdown. -/
theorem backend_shutdown {a : App} (h : a.persister.vault.backend = .file path) (files : Files) :
    (a.shutdown files).vault.backend = .file path := by
  unfold shutdown
  dsimp only
  split
  · have hfinish := backend_tick (backend_follow h a.hub.bus []) a.activations files
    exact backend_flush (show (Vault.modify _ fun s => s.sync a.activations).backend = .file path from hfinish) _
  · exact backend_flush (show (a.persister.vault.modify fun s => s.sync a.activations).backend = .file path from h) files

end App

namespace Program

variable {settings : Settings} {files left : Files} {path : String} {app last : App} {teardowns : List Teardown} {loaded : Snapshot}
  {start : Instant} {now : Nat → Instant} {targets : List String}

/-- What a file has after a run that began at some time: the targets at that time or later, and no earlier than before, and everything else
as before. -/
structure Recorded (start : Instant) (targets : List String) (before after : Snapshot) : Prop where
  raised : ∀ identity ∈ targets, ∃ t, after.targets.get? identity = some t ∧ start ≤ t ∧
    ∀ u, before.targets.get? identity = some u → u ≤ t
  kept : ∀ identity, identity ∉ targets → after.targets.get? identity = before.targets.get? identity

/-- A registry in which some targets of another were stamped, each at its time, and nothing else. -/
structure Stamped (now : Nat → Instant) (targets : List String) (before after : Registry) : Prop where
  registered : after.registered = before.registered
  named : ∀ identity ∈ targets, ∃ e i, before.resolve identity = some e ∧
    after.lastNotified e.place = some (Instant.raised (before.lastNotified e.place) (now i))
  others : ∀ identity e, identity ∉ targets → before.resolve identity = some e →
    after.lastNotified e.place = before.lastNotified e.place

/-- A stamp is neither before its time nor before what was there. -/
theorem le_raised (o : Option Instant) (t : Instant) : t ≤ Instant.raised o t ∧ ∀ u, o = some u → u ≤ Instant.raised o t := by
  cases o with
  | none => exact ⟨Std.le_refl t, fun u hu => nomatch hu⟩
  | some last =>
    refine ⟨Instant.le_later_left t last, fun u hu => ?_⟩
    obtain rfl := Option.some.inj hu
    exact Instant.le_later_right t last

/-- What is loaded from a file. -/
theorem load_vault (hload : StateFile.load files path = .ok loaded) :
    Vault.load files (.file path) = .ok ⟨.ofSnapshot loaded, .file path⟩ := by
  rw [Vault.load, Backend.load, hload]
  rfl

/-- It can be lived over. -/
theorem livable_of_load (hload : StateFile.load files path = .ok loaded) (htree : files.Tree) : Persisting.Livable files (.file path) where
  tree := htree
  holds := Backend.holds_iff.mpr ⟨loaded, hload, (Flushing.loaded_of_file hload).1⟩

/-- What an application saves when it is shut down after some of its targets were stamped. -/
theorem recorded_of_stamped (hb : App.build settings (.file path) [] files = .ok (app, teardowns))
    (hload : StateFile.load files path = .ok loaded) (htree : files.Tree) (hstart : ∀ i, start ≤ now i)
    (hgoes : ReflTransGen App.Goes (app, files) (last, left)) (hok : (last.shutdown left).result = .ok ())
    (hstamped : Stamped now targets app.hub.registry last.hub.registry) :
    ∃ saved, StateFile.load (last.shutdown left).files path = .ok saved ∧ Recorded start targets loaded saved := by
  have hl := load_vault hload
  have hlivable := livable_of_load hload htree
  have hlife := App.life_of_goes hb hl hlivable hgoes hok
  obtain ⟨vault', hl', -, hrestored⟩ := hlife.restored_eq hl hlivable
  have hbackend : app.persister.vault.backend = .file path := congrArg Vault.backend (App.fresh_build hb hl).2.1
  rw [App.backend_shutdown (App.backend_runs hgoes hbackend)] at hl'
  obtain ⟨saved, hsaved, rfl⟩ := Vault.exists_of_load hl'
  have hmirrors := App.mirrors_build hb hl
  refine ⟨saved, hsaved, ?_, ?_⟩
  · intro identity hidentity
    obtain ⟨e, i, he, hraised⟩ := hstamped.named identity hidentity
    have he' : last.hub.registry.resolve identity = some e := by rwa [Registry.resolve, hstamped.registered]
    have hknown := (Registry.lastKnown_of_resolve he' (Store.ofSnapshot loaded).restored).trans hraised
    have hshown := hmirrors.shown he
    obtain ⟨hnow, hbefore⟩ := le_raised (app.hub.registry.lastNotified e.place) (now i)
    -- the file may give it back later than it was, but not earlier
    have hgives := Backend.le_gives (.file path) (Instant.raised (app.hub.registry.lastNotified e.place) (now i))
    refine ⟨_, (hrestored identity).trans (congrArg _ hknown), ?_, fun u hu => ?_⟩
    · exact Std.le_trans (hstart i) (Std.le_trans hnow hgives)
    · exact Std.le_trans (hbefore u (hshown.trans hu)) hgives
  · intro identity hidentity
    have hknown : last.hub.registry.lastKnown (Store.ofSnapshot loaded).restored identity = loaded.targets.get? identity := by
      cases he : app.hub.registry.resolve identity with
      | none =>
        have he' : last.hub.registry.resolve identity = none := by rwa [Registry.resolve, hstamped.registered]
        exact Registry.lastKnown_of_resolve_none he' _
      | some e =>
        have he' : last.hub.registry.resolve identity = some e := by rwa [Registry.resolve, hstamped.registered]
        exact (Registry.lastKnown_of_resolve he' _).trans ((hstamped.others identity e hidentity he).trans (hmirrors.shown he))
    refine (hrestored identity).trans ((congrArg _ hknown).trans ?_)
    -- what was loaded a clock can show
    cases ht : loaded.targets.get? identity with
    | none => rfl
    | some t => exact congrArg some (Backend.gives_of_onClock fun _ _ => Flushing.onClock_of_load hl ht)

/-- Targets that pass a check are found under their identities. -/
theorem checked_of_mapM {h : Hub} {m : Message} {es : List Registration} (hs : h.registry.Sound)
    (hes : targets.mapM (h.check m) = .ok es) : es.map (·.identity) = targets ∧ ∀ e ∈ es, h.check m e.identity = .ok e := by
  induction targets generalizing es with
  | nil =>
    obtain rfl := Except.ok.inj hes
    exact ⟨rfl, fun e he => absurd he List.not_mem_nil⟩
  | cons identity rest ih =>
    obtain ⟨e, es', hc, hm, rfl⟩ := Hub.exists_of_check_cons hes
    obtain ⟨hnames, hchecked⟩ := ih hm
    have hidentity : e.identity = identity := hs.identity_of_resolve (Hub.resolve_of_check hc)
    refine ⟨by rw [List.map_cons, hnames, hidentity], fun f hf => ?_⟩
    rcases List.mem_cons.mp hf with rfl | hf
    · rw [hidentity, hc]
    · exact hchecked f hf

/-- Targets that pass a check are found, each once. -/
theorem found_of_mapM {h : Hub} {m : Message} {es : List Registration} (hs : h.registry.Sound) (hnodup : targets.Nodup)
    (hes : targets.mapM (h.check m) = .ok es) : Sending.Found h m es := by
  have hresolve : targets.map h.registry.resolve = es.map some := by
    rcases h.mapM_check m targets with ⟨e, -, hm⟩ | ⟨es', -, hm, hr⟩
    · rw [hes] at hm
      cases hm
    · obtain rfl := Except.ok.inj (hes.symm.trans hm)
      exact hr
  exact ⟨(checked_of_mapM hs hes).2, Hub.places_allocated hs hresolve, Hub.pairwise_places hs hnodup hresolve⟩

/-- A command that has activated all the registrations that were found has stamped their targets, and nothing else. -/
theorem stamped_of_sound {h : Hub} {m : Message} {es : List Registration} {limit : Option Span} {x : Sending}
    (hx : x.Sound h m es now limit) (hf : Sending.Found h m es) (hleft : x.left = []) (hs : h.registry.Sound) :
    Stamped now (es.map (·.identity)) h.registry x.app.hub.registry := by
  have hlength : x.waits.length = es.length := Nat.le_antisymm hx.begun (List.drop_eq_nil_iff.mp (hx.left.symm.trans hleft))
  refine ⟨hx.registered, ?_, ?_⟩
  · intro identity hidentity
    obtain ⟨e, he, rfl⟩ := List.mem_map.mp hidentity
    obtain ⟨i, hi⟩ := List.getElem?_of_mem he
    have hlt : i < x.waits.length := hlength ▸ (List.getElem?_eq_some_iff.mp hi).1
    exact ⟨e, i, Hub.resolve_of_check (hf.checked e he), hx.stamped i e hlt hi⟩
  · intro identity e hidentity he
    refine hx.untouched e.place fun e' he' => ?_
    rw [hlength, List.take_length] at he'
    have hne : e'.identity ≠ identity := fun heq => hidentity (heq ▸ List.mem_map_of_mem he')
    exact hs.place_ne (Hub.resolve_of_check (hf.checked e' he')) he hne

/-! ## What is reported -/

/-- A line for a send has one line break if there is none in the identity and in what is said of a failure. -/
theorem count_sendLine {identity : String} {r : Except DispatchError Unit} (hidentity : '\n' ∉ identity.toList)
    (herror : ∀ e, r = .error e → '\n' ∉ e.message.toList) : (sendLine identity r).toList.count '\n' = 1 := by
  have hzero := List.count_eq_zero.mpr hidentity
  cases r with
  | ok u => simp [sendLine, hzero]
  | error e =>
    have hmessage := List.count_eq_zero.mpr (herror e rfl)
    simp [sendLine, hzero, hmessage]

/-- Texts that are joined have the characters that each of them has. -/
theorem count_join {c : Char} {texts : List String} (h : ∀ s ∈ texts, s.toList.count c = 1) :
    (String.join texts).toList.count c = texts.length := by
  induction texts with
  | nil => rfl
  | cons s rest ih =>
    obtain ⟨hs, hrest⟩ := List.forall_mem_cons.mp h
    rw [String.join_cons, String.toList_append, List.count_append, hs, ih hrest, List.length_cons, Nat.add_comm]

/-- What a run tells of the targets of a call that was not rejected. -/
structure Reported (settings : Settings) (a : SendArguments) (r : Registry) (answers : List Answer) (targets : List String)
    (t : Transcript) : Prop where
  /-- The targets are those that were given, each once, in the order of first mention. -/
  firsts : FirstsOf a.targets targets
  /-- Each was sent the message of the call, and its send was waited for. -/
  seen : ∃ data m, a.serviceData = .ok data ∧ Call.readFields data = .ok (a.targets, m) ∧
    List.Forall₂ (fun identity (x : Answer) => ∃ e, r.resolve identity = some e ∧ e.identity = identity ∧ x.seen.send = ⟨e, m⟩)
      targets answers
  /-- What is printed is an entry for each, which tells how it went. -/
  entries : ∃ entries, List.Forall₂ (fun (x : Answer) entry => Says (limit settings a) x.seen entry) answers entries ∧
    t.output = String.join entries
  /-- An entry is a line, unless there is a line break in an identity or in what is said of a failure. -/
  lines : (∀ identity ∈ targets, '\n' ∉ identity.toList) → (∀ x ∈ answers, ∀ e, x.result = .error e → '\n' ∉ e.message.toList) →
    t.output.toList.count '\n' = targets.length
  /-- The code is zero if all were sent. -/
  code : t.code = 0 ↔ ∀ x ∈ answers, ∃ task, x.seen.phase = .finished ⟨task, .sent⟩

theorem send_of_fits {limit : Option Span} {s : Send} {x : Answer} (hx : x.Fits limit s) : x.seen.send = s := by
  cases hx <;> rfl

variable {m : Message} {deadline : Option Span} {es : List Registration} {answers : List Answer}

/-- All results are successes if all sends were seen to be. -/
theorem forall_results_iff (hfits : List.Forall₂ (fun e (x : Answer) => x.Fits deadline ⟨e, m⟩) es answers) :
    (∀ r ∈ results es answers, r.2 = .ok ()) ↔ ∀ x ∈ answers, ∃ task, x.seen.phase = .finished ⟨task, .sent⟩ := by
  induction hfits with
  | nil => exact iff_of_true (fun _ hr => absurd hr List.not_mem_nil) (fun _ hx => absurd hx List.not_mem_nil)
  | cons hx _ ih => rw [results, List.zipWith_cons_cons, List.forall_mem_cons, List.forall_mem_cons, ← ih, ← result_eq_ok_iff hx, results]

/-- What is printed is told of the sends, one by one. -/
theorem forall_says (hfits : List.Forall₂ (fun e (x : Answer) => x.Fits deadline ⟨e, m⟩) es answers) :
    List.Forall₂ (fun (x : Answer) entry => Says deadline x.seen entry) answers
      (List.zipWith (fun e x => sendLine e.identity x.result) es answers) := by
  induction hfits with
  | nil => exact .nil
  | cons hx _ ih => exact .cons (says_of_fits hx) ih

/-- What fits all sends is reported of them. -/
theorem reported_of_fits {a : SendArguments} {data : Value} {call : Call} {r : Registry}
    (hd : a.serviceData = .ok data) (hc : Call.ofValue data = .ok call) (hnames : es.map (·.identity) = call.targets)
    (hresolve : ∀ e ∈ es, r.resolve e.identity = some e)
    (hfits : List.Forall₂ (fun e (x : Answer) => x.Fits (limit settings a) ⟨e, call.message⟩) es answers)
    (hok : ((last.withHub (report (results es answers) es.length last.hub).hub).shutdown left).result = .ok ()) :
    Reported settings a r answers call.targets (close (report (results es answers) es.length last.hub) last left) := by
  obtain ⟨given, hread, htargets⟩ := Call.ofValue_eq_ok hc
  obtain rfl := SendArguments.given_eq hd hread
  have hlength := hfits.length_eq
  have houtput : (close (report (results es answers) es.length last.hub) last left).output =
      String.join (List.zipWith (fun e (x : Answer) => sendLine e.identity x.result) es answers) := by
    rw [output_close, report, results, List.map_zipWith]
  constructor
  case firsts =>
    rw [htargets]
    exact FirstsOf.eraseDups _
  case seen =>
    refine ⟨data, call.message, hd, hread, ?_⟩
    rw [← hnames, List.forall₂_map_left_iff]
    refine ((List.forall₂_and_left _ _).mpr ⟨hresolve, hfits⟩).imp ?_
    rintro e x ⟨he, hx⟩
    exact ⟨e, he, rfl, send_of_fits hx⟩
  case entries => exact ⟨_, forall_says hfits, houtput⟩
  case lines =>
    intro hidentities herrors
    rw [houtput, count_join, List.length_zipWith, ← hnames, List.length_map, ← hlength, Nat.min_self]
    intro entry hentry
    rw [← List.map_uncurry_zip_eq_zipWith] at hentry
    obtain ⟨⟨e, x⟩, hmem, rfl⟩ := List.mem_map.mp hentry
    obtain ⟨he, hx⟩ := List.of_mem_zip hmem
    exact count_sendLine (hidentities _ (hnames ▸ List.mem_map_of_mem he)) (herrors x hx)
  case code =>
    rw [code_close hok, ← forall_results_iff hfits, ← result_report _ es.length last.hub]
    cases (report (results es answers) es.length last.hub).result with
    | ok u => exact iff_of_true rfl rfl
    | error f => exact iff_of_false Nat.one_ne_zero (fun h => by cases h)

/-! ## Whole runs -/

variable {a : SendArguments} {done : CommandResult}

/-- Up to the call an application is as it was built. -/
theorem idle_of_works (hb : App.build settings (.file path) [] files = .ok (app, teardowns))
    (hload : StateFile.load files path = .ok loaded) (hworks : ReflTransGen App.Works (app, files) (last, left)) :
    App.Idle ⟨.ofSnapshot loaded, .file path⟩ last ∧ last.hub = app.hub ∧ left = files :=
  App.Idle.runs (App.idle_build hb (load_vault hload)) hworks

/-- A run in which the call is rejected prints nothing and leaves the files, and its code is one. Any other reports what came of its sends,
and records that their targets were activated. -/
theorem Ends.tells (h : Ends settings a now files answers done last left) (hpath : settings.state.path = some path)
    (hb : App.build settings (App.backend settings.state) [] files = .ok (app, teardowns))
    (hload : StateFile.load files path = .ok loaded) (htree : files.Tree) (hstart : ∀ i, start ≤ now i)
    (hok : ((last.withHub done.hub).shutdown left).result = .ok ()) :
    ((rejection? app.hub a).isSome → (close done last left).output = "" ∧ (close done last left).code = 1 ∧
      (close done last left).files = files) ∧
    (rejection? app.hub a = none → ∃ targets saved, Reported settings a app.hub.registry answers targets (close done last left) ∧
      StateFile.load (close done last left).files path = .ok saved ∧ Recorded start targets loaded saved) := by
  have hbackend : App.backend settings.state = .file path := by rw [App.backend, hpath]
  rw [hbackend] at hb
  cases h with
  | rejected hb' hworks hr =>
    rw [hbackend] at hb'
    obtain ⟨rfl, rfl⟩ := Prod.mk.inj (Except.ok.inj (hb.symm.trans hb'))
    obtain ⟨hidle, hhub, rfl⟩ := idle_of_works hb hload hworks
    rw [hhub] at hr
    rw [hr]
    refine ⟨fun _ => ⟨rfl, ?_, (hidle.shutdown left).2⟩, fun hnone => by cases hnone⟩
    rw [code_close hok]
  | @answered _ first _ _ found _ data call es x _ hb' hbefore hd hc hes hruns hleft hall hafter =>
    rw [hbackend] at hb'
    obtain ⟨rfl, rfl⟩ := Prod.mk.inj (Except.ok.inj (hb.symm.trans hb'))
    obtain ⟨hidle, hhub, rfl⟩ := idle_of_works hb hload hbefore
    have hs : app.hub.registry.Sound := (App.fresh_build hb (load_vault hload)).1.sound
    rw [← hhub] at hs ⊢
    have hnodup : call.targets.Nodup := by
      obtain ⟨given, -, htargets⟩ := Call.ofValue_eq_ok hc
      exact htargets ▸ Hub.nodup_eraseDups given
    have hfound := found_of_mapM hs hnodup hes
    obtain ⟨hnames, hchecked⟩ := checked_of_mapM hs hes
    -- what the command does from the call to the last answer
    have hbegun : Sending.Sound first.hub call.message es now (limit settings a) ⟨first, found, es, []⟩ :=
      Sending.sound_begun hidle.unsent found es
    have hsound := hbegun.runs hfound hruns
    have hreported := reported_of_fits hd hc hnames (fun e he => Hub.resolve_of_check (hchecked e he)) (hsound.fits hleft hall) hok
    -- what is saved after that
    have hgoes := ((App.goes_of_works hbefore).trans (hbegun.goes_of_runs hfound hruns)).trans (App.goes_of_works hafter)
    have hstamped := stamped_of_sound hsound hfound hleft hs
    rw [hnames, hhub, ← (App.alike_of_works hafter).registry] at hstamped
    obtain ⟨saved, hsaved, hrecorded⟩ := recorded_of_stamped hb hload htree hstart hgoes hok hstamped
    rw [rejection?_of_found hd hc hes]
    refine ⟨fun h => ?_, fun _ => ⟨call.targets, saved, hreported, hsaved, hrecorded⟩⟩
    cases h

end Program

end Herald
