import Mathlib
import Herald.Proofs.Isolation
import Herald.Proofs.Reporting

/-!
# The command in the program

What the program does when it is asked to send is one of the runs of the command (`Program.exists_ends`): all targets are activated first,
the pool is settled then, and the waits are answered one by one when that is done. Every run of the command reports and records what came
of its sends (`Program.send_reports_and_records`).
-/

namespace Herald

open Relation (ReflTransGen)

namespace Sending

variable {m : Message} {now : Nat → Instant} {limit : Option Span} {app : App} {files : Files}

/-- Activating registrations in one piece is activating one after the other. -/
theorem steps_activateAll (es : List Registration) (app : App) (waits : List (Nat × Option Answer)) :
    ReflTransGen (Step m now limit) ⟨app, files, es, waits⟩
      ⟨app.withHub (Hub.activateAll m now waits.length es app.hub).2, files, [],
        waits ++ (Hub.activateAll m now waits.length es app.hub).1.map fun ticket => (ticket, none)⟩ := by
  induction es generalizing app waits with
  | nil =>
    rw [Hub.activateAll, List.map_nil, List.append_nil]
    exact .refl
  | cons e rest ih =>
    have hrest := ih (app.withHub (app.hub.activate (now waits.length) e m).2)
      (waits ++ [((app.hub.activate (now waits.length) e m).1, none)])
    rw [List.length_append, List.append_assoc] at hrest
    exact .head (.activate rfl) hrest

/-- Work is something that happens meanwhile. -/
theorem steps_work {app' : App} {files' : Files} (h : ReflTransGen App.Works (app, files) (app', files')) (left : List Registration)
    (waits : List (Nat × Option Answer)) : ReflTransGen (Step m now limit) ⟨app, files, left, waits⟩ ⟨app', files', left, waits⟩ :=
  h.lift (fun p => (⟨p.1, p.2, left, waits⟩ : Sending)) fun _ _ hw => .work hw

/-- Waits that can all be answered are answered one after the other. -/
theorem steps_answer {tickets : List Nat} {answers : List Answer}
    (h : List.Forall₂ (fun ticket (x : Answer) => app.hub.pool.submissions[ticket]? = some x.seen ∧
      app.hub.pool.await? limit ticket = some x.result) tickets answers) (before : List (Nat × Option Answer)) :
    ReflTransGen (Step m now limit) ⟨app, files, [], before ++ tickets.map fun ticket => (ticket, none)⟩
      ⟨app, files, [], before ++ List.zipWith (fun ticket x => (ticket, some x)) tickets answers⟩ := by
  induction h generalizing before with
  | nil => exact .refl
  | @cons ticket x tickets answers hx _ ih =>
    have hrest := ih (before ++ [(ticket, some x)])
    rw [List.append_assoc, List.append_assoc] at hrest
    have hw : (before ++ (ticket, none) :: tickets.map fun ticket => (ticket, (none : Option Answer)))[before.length]? =
        some (ticket, none) := by
      rw [List.getElem?_append_right (Nat.le_refl _), Nat.sub_self]
      rfl
    have hset : (before ++ (ticket, none) :: tickets.map fun ticket => (ticket, none)).set before.length (ticket, some x) =
        before ++ (ticket, some x) :: tickets.map fun ticket => (ticket, none) := by
      rw [List.set_append_right _ _ (Nat.le_refl _), Nat.sub_self]
      rfl
    rw [List.singleton_append, ← hset] at hrest
    exact .head (.answer rfl hw hx.1 hx.2) hrest

/-- One who waits for a send gets an answer if there is a limit, or if the send has ended. -/
theorem exists_await? {p : Pool} {ticket : Nat} {s : Submission} (hs : p.submissions[ticket]? = some s)
    (hend : limit = none → ∃ o, s.phase = .finished o) : ∃ r, p.await? limit ticket = some r := by
  obtain ⟨send, phase⟩ := s
  rw [Pool.await?, Pool.result?, hs]
  cases limit with
  | none =>
    obtain ⟨o, rfl⟩ := hend rfl
    exact ⟨_, rfl⟩
  | some span => cases phase <;> exact ⟨_, rfl⟩

/-- Who can get an answer to every wait can get all the answers. -/
theorem exists_answers {p : Pool} {tickets : List Nat}
    (h : ∀ ticket ∈ tickets, ∃ s r, p.submissions[ticket]? = some s ∧ p.await? limit ticket = some r) :
    ∃ answers, List.Forall₂ (fun ticket (x : Answer) => p.submissions[ticket]? = some x.seen ∧
      p.await? limit ticket = some x.result) tickets answers := by
  induction tickets with
  | nil => exact ⟨[], .nil⟩
  | cons ticket rest ih =>
    obtain ⟨hfirst, hrest⟩ := List.forall_mem_cons.mp h
    obtain ⟨s, r, hs, hr⟩ := hfirst
    obtain ⟨answers, hall⟩ := ih hrest
    exact ⟨⟨s, r⟩ :: answers, .cons ⟨hs, hr⟩ hall⟩

end Sending

namespace App

/-- Settling the pool is work. -/
theorem works_settle (app : App) (files : Files) (network : Network) (turns : Nat → Turn) (canEnd : Send → Bool) :
    ReflTransGen Works (app, files) (app.withHub (app.hub.settle network turns canEnd), files) := by
  have key (k : Nat) (app : App) :
      ReflTransGen Works (app, files) (app.withHub (Hub.advances network turns canEnd k app.hub), files) := by
    induction k generalizing app with
    | zero => exact .refl
    | succ k ih =>
      rw [Hub.advances]
      cases h : app.hub.advance? network turns canEnd with
      | none => exact .refl
      | some hub =>
        obtain ⟨t, hs | ⟨turn, hf⟩⟩ := Hub.of_advance? h
        · exact .head (.start hs) (ih (app.withHub hub))
        · exact .head (.finish hf) (ih (app.withHub hub))
  exact key _ app

end App

namespace Hub

/-- Activating registrations leaves a pool balanced. -/
theorem balanced_activateAll {m : Message} {now : Nat → Instant} {es : List Registration} {h : Hub} (hb : h.pool.Balanced) (position : Nat) :
    (activateAll m now position es h).2.pool.Balanced := by
  induction es generalizing h position with
  | nil => exact hb
  | cons e rest ih => exact ih (h := (h.activate (now position) e m).2) (hb.submit _) (position + 1)

end Hub

namespace Program

variable {settings : Settings} {a : SendArguments} {m : Machine} {app : App} {teardowns : List Teardown}

/-- An application is built over a store that was loaded. -/
theorem exists_load_of_build {backend : Backend} {extras : List (String × Target)} {files : Files}
    (hb : App.build settings backend extras files = .ok (app, teardowns)) : ∃ loaded, Vault.load files backend = .ok loaded := by
  cases hl : Vault.load files backend with
  | ok loaded => exact ⟨loaded, rfl⟩
  | error failure =>
    unfold App.build at hb
    rw [hl] at hb
    split at hb <;> cases hb

/-- The results of the tickets are those of the answers. -/
theorem sendResults_eq {hub : Hub} {deadline : Option Span} {tickets : List Nat} {answers : List Answer}
    (h : List.Forall₂ (fun ticket (x : Answer) => hub.pool.submissions[ticket]? = some x.seen ∧
      hub.pool.await? deadline ticket = some x.result) tickets answers) :
    sendResults hub deadline tickets = answers.map fun x => (x.seen.send.registration.identity, x.result) := by
  refine Gathering.filterMap_eq_of_forall₂ (List.forall₂_map_right_iff.mpr (h.imp ?_))
  rintro ticket x ⟨hs, hr⟩
  rw [hs, hr]
  rfl

/-- They are those of the registrations, if the answers fit their sends. -/
theorem results_eq {deadline : Option Span} {answers : List Answer} {es : List Registration} {message : Message}
    (h : List.Forall₂ (fun e (x : Answer) => x.Fits deadline ⟨e, message⟩) es answers) :
    results es answers = answers.map fun x => (x.seen.send.registration.identity, x.result) := by
  induction h with
  | nil => rfl
  | cons hx _ ih => rw [results, List.zipWith_cons_cons, List.map_cons, ← ih, send_of_fits hx, results]

/-- Items beside others, without the others. -/
theorem zipWith_right {α β γ : Type} {f : β → γ} {as : List α} {bs : List β} (h : as.length = bs.length) :
    List.zipWith (fun _ b => f b) as bs = bs.map f := by
  induction as generalizing bs with
  | nil =>
    obtain rfl := List.eq_nil_of_length_eq_zero h.symm
    rfl
  | cons a rest ih =>
    cases bs with
    | nil => cases h
    | cons b bs => rw [List.zipWith_cons_cons, List.map_cons, ih (Nat.succ.inj h)]

/-- When the targets are found, what the program does is a run of the command in which they are all activated, the pool is settled, and
the waits are answered then. -/
theorem exists_ends_of_found (hb : App.build settings (App.backend settings.state) [] m.files = .ok (app, teardowns))
    (hfresh : App.Fresh settings app.hub) (htimeout : app.defaultTimeout = settings.dispatch.defaultTimeoutSeconds.map .ofSeconds)
    {data : Value} {call : Call} {es : List Registration} (hd : a.serviceData = .ok data) (hc : Call.ofValue data = .ok call)
    (hes : call.targets.mapM (app.hub.check call.message) = .ok es) :
    ∃ answers, Ends settings a m.now m.files answers (send m app a) (app.withHub (send m app a).hub) m.files := by
  let activated := Hub.activateAll call.message m.now 0 es app.hub
  let canEnd (s : Send) : Bool := (limit settings a).all fun span => m.endsWithin span s
  let settled := activated.2.settle m.network m.turns canEnd
  have hcall : app.hub.callService m.now data = .ok activated := by
    rw [Hub.callService, Hub.Operation.on, Hub.run_callService hc, hes]
  have hsend : send m app a = report (sendResults settled (limit settings a) activated.1) activated.1.length settled := by
    rw [send, hd]
    simp only [hcall, htimeout]
    rfl
  -- the command up to the first answer
  have hfound : Sending.Found app.hub call.message es := by
    obtain ⟨given, -, htargets⟩ := Call.ofValue_eq_ok hc
    exact found_of_mapM hfresh.sound (htargets ▸ Hub.nodup_eraseDups given) hes
  have hbegun : Sending.Sound app.hub call.message es m.now (limit settings a) ⟨app, m.files, es, []⟩ :=
    Sending.sound_begun (by rw [hfresh.pool]; rfl) m.files es
  have hsettled : ReflTransGen (Sending.Step call.message m.now (limit settings a)) ⟨app, m.files, es, []⟩
      ⟨app.withHub settled, m.files, [], activated.1.map fun ticket => (ticket, none)⟩ :=
    (Sending.steps_activateAll es app []).trans
      (Sending.steps_work (App.works_settle (app.withHub activated.2) m.files m.network m.turns canEnd) [] _)
  have hsound := hbegun.runs hfound hsettled
  have hlength : activated.1.length = es.length := by
    have hle := hsound.begun
    have hall := List.drop_eq_nil_iff.mp hsound.left.symm
    rw [List.length_map] at hle hall
    exact Nat.le_antisymm hle hall
  -- every wait can be answered
  have hanswers : ∃ answers, List.Forall₂ (fun ticket (x : Answer) => settled.pool.submissions[ticket]? = some x.seen ∧
      settled.pool.await? (limit settings a) ticket = some x.result) activated.1 answers := by
    refine Sending.exists_answers fun ticket hticket => ?_
    have hlt : ticket < settled.pool.submissions.length := by
      have htickets : activated.1 = List.range activated.1.length := by simpa [Function.comp_def] using hsound.ticketed
      have hcount := congrArg List.length hsound.submitted
      rw [List.length_map, List.length_map, List.length_map, List.length_take, hlength, Nat.min_self] at hcount
      rw [htickets, List.mem_range, hlength] at hticket
      exact hcount ▸ hticket
    have hs := List.getElem?_eq_getElem hlt
    have hend : limit settings a = none → ∃ o, settled.pool.submissions[ticket].phase = .finished o := by
      intro hnone
      -- without a limit every send can end
      have hall (s : Send) : canEnd s = true := by simp only [canEnd, hnone, Option.all_none]
      have hbalanced : activated.2.pool.Balanced := by
        refine Hub.balanced_activateAll ?_ 0
        rw [hfresh.pool]
        exact Pool.balanced_ofWorkers _
      exact Hub.finished_settle hbalanced hall hs
    obtain ⟨r, hr⟩ := Sending.exists_await? hs hend
    exact ⟨_, r, hs, hr⟩
  obtain ⟨answers, hanswers⟩ := hanswers
  have hruns := hsettled.trans (Sending.steps_answer hanswers [])
  have hall : (List.zipWith (fun ticket (x : Answer) => (ticket, some x)) activated.1 answers).map (·.2) = answers.map some := by
    rw [List.map_zipWith]
    exact zipWith_right hanswers.length_eq
  have hfits := (hbegun.runs hfound hruns).fits rfl hall
  rw [hsend, sendResults_eq hanswers, ← results_eq hfits, hlength]
  exact ⟨answers, .answered hb .refl hd hc hes hruns rfl hall .refl⟩

/-- What the program does when it is asked to send is a run of the command. -/
theorem exists_ends (hb : App.build settings (App.backend settings.state) [] m.files = .ok (app, teardowns)) :
    ∃ answers, Ends settings a m.now m.files answers (send m app a) (app.withHub (send m app a).hub) m.files := by
  obtain ⟨loaded, hl⟩ := exists_load_of_build hb
  obtain ⟨hfresh, -, htimeout⟩ := App.fresh_build hb hl
  cases hd : a.serviceData with
  | error failure =>
    have hsend : send m app a = { result := .error failure, hub := app.hub } := by rw [send, hd]
    rw [hsend]
    exact ⟨[], .rejected hb .refl (by rw [rejection?, hd])⟩
  | ok data =>
    cases hr : app.hub.refusalOfCall? data with
    | some e =>
      have hcall : app.hub.callService m.now data = .error e := by
        rw [Hub.callService, Hub.Operation.on, Hub.run_callService_of_refusal hr]
      have hsend : send m app a = { result := .error ⟨e.message, []⟩, hub := app.hub } := by
        rw [send, hd]
        simp only [hcall]
      have hrejected : rejection? app.hub a = some ⟨e.message, []⟩ := by
        rw [rejection?, hd]
        simp only [hr, Option.map_some]
      rw [hsend]
      exact ⟨[], .rejected hb .refl hrejected⟩
    | none =>
      -- the call is read, and all its targets are found
      obtain ⟨call, es, hc, hes⟩ :
          ∃ call es, Call.ofValue data = .ok call ∧ call.targets.mapM (app.hub.check call.message) = .ok es := by
        rw [Hub.refusalOfCall?] at hr
        cases hc : Call.ofValue data with
        | error e =>
          rw [hc] at hr
          cases hr
        | ok call =>
          rw [hc] at hr
          rcases app.hub.mapM_check call.message call.targets with ⟨e, hf, -⟩ | ⟨es, -, hm, -⟩
          · cases hf.symm.trans hr
          · exact ⟨call, es, rfl, hm⟩
      exact exists_ends_of_found hb hfresh htimeout hd hc hes

/-- A run that is asked to send, and whose settings are loaded and whose application is built, sends and shuts the application down. -/
theorem run_eq {args : List String} {c : CommandLine} (hargs : CommandLine.ofArguments args = .ok c) (hcommand : c.command = some (.send a))
    (hsettings : Settings.load m.processors m.files m.environment c = .ok settings)
    (hb : App.build settings (App.backend settings.state) [] m.files = .ok (app, teardowns)) :
    run m args = close (send m app a) app m.files := by
  rw [run, hargs]
  simp only [hsettings, hb]
  rw [runApp, hcommand, command]

/-- The command reports and records what it did. Over a file that can be loaded, every run of the command that is shut down without a
failure prints nothing, ends with one and leaves the files as they are if the call is rejected. If it is not, there is an entry for every
target that was named, in the order of first mention, which says that it was sent if the send was seen to have succeeded and that it failed
otherwise, each a line if there is no line break in what it tells; the code is zero if all were sent; and the file holds of every target
that was named a time that is not before the start and not before the one it held, and of all others what it held. Whenever the program is
asked to send with such settings, what it does is such a run. -/
theorem send_reports_and_records {files : Files} {path : String} {now : Nat → Instant} {start : Instant} (htree : files.Tree)
    (hpath : settings.state.path = some path) (hb : App.build settings (App.backend settings.state) [] files = .ok (app, teardowns))
    (hstart : ∀ i, start ≤ now i) :
    ∃ loaded, StateFile.load files path = .ok loaded ∧
      (∀ answers done last left, Ends settings a now files answers done last left →
        ((last.withHub done.hub).shutdown left).result = .ok () →
        ((rejection? app.hub a).isSome → (close done last left).output = "" ∧ (close done last left).code = 1 ∧
          (close done last left).files = files) ∧
        (rejection? app.hub a = none → ∃ targets saved,
          Reported settings a app.hub.registry answers targets (close done last left) ∧
          StateFile.load (close done last left).files path = .ok saved ∧ Recorded start targets loaded saved)) ∧
      ∀ m args c, m.now = now → m.files = files → CommandLine.ofArguments args = .ok c → c.command = some (.send a) →
        Settings.load m.processors m.files m.environment c = .ok settings →
        ∃ answers, Ends settings a now files answers (send m app a) (app.withHub (send m app a).hub) files ∧
          run m args = close (send m app a) (app.withHub (send m app a).hub) files := by
  have hbackend : App.backend settings.state = .file path := by rw [App.backend, hpath]
  obtain ⟨vault, hl⟩ := exists_load_of_build hb
  rw [hbackend] at hl
  obtain ⟨loaded, hload, -⟩ := Vault.exists_of_load hl
  refine ⟨loaded, hload, fun answers done last left hends hok => hends.tells hpath hb hload htree hstart hok, ?_⟩
  rintro m args c rfl rfl hargs hcommand hsettings
  obtain ⟨answers, hends⟩ := exists_ends (m := m) (a := a) hb
  exact ⟨answers, hends, run_eq hargs hcommand hsettings hb⟩

/-! ## Two targets that write to the log -/

/-- The entry of a target that writes to the log. -/
def logEntry (id : String) : TargetConfig :=
  { id := some id, name := "x", kind := .log }

/-- A machine on which two such targets are configured. There is a line break in the identity of one. -/
def twoLogs : Machine where
  processors := 1
  environment := [("NOTIFYHUB_TARGETS", "[\x7bid=a,name=x,kind=log\x7d,\x7bid=\"a\\nb\",name=x,kind=log\x7d]")]
  files := {}
  now := fun _ => .epoch
  network := .unreachable
  turns := fun ended => ⟨ended, .epoch⟩
  endsWithin := fun _ _ => true

/-- The settings that are loaded on it. -/
def twoLogsSettings : Settings :=
  { Settings.standard 1 with state := ⟨some "state.json", 5⟩, targets := [logEntry "a", logEntry "a\nb"] }

/-- The application that is built with them, over a bus. -/
def twoLogsApp (bus : Bus) : App where
  hub := ((Hub.register { bus, pool := .ofWorkers 1 } none "a" (logEntry "a").target).1.register none "a\nb" (logEntry "a\nb").target).1
  persister := ⟨⟨⟨[], false⟩, .file "state.json"⟩, 0⟩
  persists := true
  supervisor := App.tasks 5
  defaultTimeout := some (.ofSeconds 30)

/-- The arguments that ask for one of them. -/
def hiTo (target : String) : SendArguments :=
  { targets := [target], message := "hi" }

theorem load_twoLogs (a : SendArguments) :
    Settings.load twoLogs.processors twoLogs.files twoLogs.environment { statePath := some "state.json", command := some (.send a) } =
      .ok twoLogsSettings := by
  have hlayer : Environment.layer twoLogs.environment = .object [("targets", .list
      [.object [("id", .text "a"), ("kind", .text "log"), ("name", .text "x")],
       .object [("id", .text "a\nb"), ("kind", .text "log"), ("name", .text "x")]])] := by
    cbv
  rw [Settings.load, hlayer]
  rfl

theorem build_twoLogs :
    App.build twoLogsSettings (App.backend twoLogsSettings.state) [] twoLogs.files = .ok (twoLogsApp ⟨1024, []⟩, []) := by
  have hcapacity : Bus.ofCapacity 1024 = ⟨1024, []⟩ := by cbv
  have hb : App.build twoLogsSettings (App.backend twoLogsSettings.state) [] {} = .ok (twoLogsApp (.ofCapacity 1024), []) := rfl
  rwa [hcapacity] at hb

/-- One target is sent to. It is told of in a line, and its time is in the file that was missing before. -/
theorem first_message_is_recorded :
    ∃ saved t, (run twoLogs ["--state-path", "state.json", "send", "-t", "a", "-m", "hi"]).output = "a\tsent\n" ∧
      (run twoLogs ["--state-path", "state.json", "send", "-t", "a", "-m", "hi"]).code = 0 ∧
      StateFile.load (run twoLogs ["--state-path", "state.json", "send", "-t", "a", "-m", "hi"]).files "state.json" = .ok saved ∧
      saved.targets.get? "a" = some t ∧ Instant.epoch ≤ t ∧ saved.targets.get? "a\nb" = none := by
  have hargs : CommandLine.ofArguments ["--state-path", "state.json", "send", "-t", "a", "-m", "hi"] =
      .ok { statePath := some "state.json", command := some (.send (hiTo "a")) } := by decide
  obtain ⟨loaded, hload, htells, hruns⟩ := send_reports_and_records (a := hiTo "a") (Files.tree_of_empty rfl) rfl build_twoLogs
    (fun _ => Std.le_refl Instant.epoch)
  obtain ⟨answers, hends, hrun⟩ := hruns twoLogs _ _ rfl rfl hargs rfl (load_twoLogs _)
  obtain ⟨targets, saved, hreported, hsaved, hrecorded⟩ := (htells _ _ _ _ hends (by rfl)).2 (by rfl)
  obtain rfl : (⟨1, []⟩ : Snapshot) = loaded := Except.ok.inj hload
  rw [hrun]
  obtain ⟨t, ht, hstart, -⟩ := hrecorded.raised "a" ((hreported.firsts.same "a").mpr List.mem_cons_self)
  refine ⟨saved, t, by rfl, by rfl, hsaved, ht, hstart, ?_⟩
  have hother : "a\nb" ∉ targets := fun h => absurd ((hreported.firsts.same "a\nb").mp h) (by decide)
  rw [hrecorded.kept "a\nb" hother]
  rfl

/-- There are two lines for one target if there is a line break in its identity. -/
theorem line_break_in_identity_takes_two_lines :
    ∃ (m : Machine) (args : List String) (c : CommandLine) (a : SendArguments) (settings : Settings) (app : App) (teardowns : List Teardown),
      CommandLine.ofArguments args = .ok c ∧ c.command = some (.send a) ∧
      Settings.load m.processors m.files m.environment c = .ok settings ∧ settings.state.path = some "state.json" ∧
      m.files.contains "state.json" = false ∧
      App.build settings (App.backend settings.state) [] m.files = .ok (app, teardowns) ∧ rejection? app.hub a = none ∧
      a.targets = ["a\nb"] ∧ (run m args).code = 0 ∧ (run m args).output = "a\nb\tsent\n" ∧
      (run m args).output.toList.count '\n' ≠ a.targets.eraseDups.length := by
  have hargs : CommandLine.ofArguments ["--state-path", "state.json", "send", "-t", "a\nb", "-m", "hi"] =
      .ok { statePath := some "state.json", command := some (.send (hiTo "a\nb")) } := by decide
  have hrun := run_eq hargs rfl (load_twoLogs _) build_twoLogs
  have houtput : (close (send twoLogs (twoLogsApp ⟨1024, []⟩) (hiTo "a\nb")) (twoLogsApp ⟨1024, []⟩) twoLogs.files).output =
      "a\nb\tsent\n" := by
    rfl
  refine ⟨twoLogs, _, _, _, _, _, _, hargs, rfl, load_twoLogs _, rfl, by decide, build_twoLogs, by rfl, rfl, ?_, ?_, ?_⟩ <;> rw [hrun]
  · rfl
  · exact houtput
  · rw [houtput]
    decide

end Program

end Herald
