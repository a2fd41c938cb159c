import Herald.Program
import Herald.Proofs.Workers
import Mathlib.Data.List.Forall2

/-!
# Sends that do not affect each other

What the subscribers are told of a send, and what the one who waits for it is told, is the verdict on its own delivery (`Verdict`): in any
two workshops, whatever else was submitted there and however that went, two sends of one identity whose deliveries came to the same are told
alike (`Office.sends_are_isolated`). What is told of a delivery that broke off cites the number of its task, which all tasks have a part in;
so two of these may be told with different numbers, and with no other difference (`Renumbered`). Waiting for many sends at once is waiting
for each: every send is answered once, under its own identity and at its own position (`Gathering`), and that is what `Program.sendResults`
gives.
-/

namespace Herald

open Relation

/-- What is said of a delivery that broke off in the task of some number, with a message or without one. -/
def abortion (task : Nat) : Option String → String
  | some text => "send task aborted: task " ++ toString task ++ " panicked with message " ++ Text.quoted text
  | none => "send task aborted: task " ++ toString task ++ " panicked"

/-- What is told of a send to an identity, by how its own delivery went: to the one who waits for it, and to the subscribers. -/
inductive Verdict (identity : String) : Ended → Except DispatchError Unit → Event → Prop
  | sent (task : Nat) : Verdict identity ⟨task, .sent⟩ (.ok ()) (.sendSucceeded identity)
  /-- The error is the one the target gave, and the subscribers are told all its reasons. -/
  | failed (task : Nat) (f : Failure) :
    Verdict identity ⟨task, .failed f⟩ (.error (.sendFailure identity f))
      (.sendFailed identity (": ".intercalate (f.reason :: f.causes)))
  | panicked (task : Nat) (text : Option String) :
    Verdict identity ⟨task, .panicked text⟩ (.error (.sendFailure identity ⟨abortion task text, []⟩))
      (.sendFailed identity (abortion task text))

/-- The verdict on a delivery is the result and the event of the send. -/
theorem verdict_iff {s : Send} {o : Ended} {r : Except DispatchError Unit} {e : Event} :
    Verdict s.registration.identity o r e ↔ r = s.result o ∧ e = s.event o := by
  have hbroken (task : Nat) (text : Option String) :
      s.result ⟨task, .panicked text⟩ = .error (.sendFailure s.registration.identity ⟨abortion task text, []⟩) ∧
        s.event ⟨task, .panicked text⟩ = .sendFailed s.registration.identity (abortion task text) := by
    cases text <;> exact ⟨rfl, rfl⟩
  constructor
  · rintro (_ | ⟨_, f⟩ | ⟨task, text⟩)
    · exact ⟨rfl, rfl⟩
    · exact ⟨rfl, rfl⟩
    · exact ⟨(hbroken task text).1.symm, (hbroken task text).2.symm⟩
  · rintro ⟨rfl, rfl⟩
    obtain ⟨task, o⟩ := o
    cases o with
    | sent => exact .sent task
    | failed f => exact .failed task f
    | panicked text =>
      rw [(hbroken task text).1, (hbroken task text).2]
      exact .panicked task text

/-- There is one verdict on a delivery. -/
theorem Verdict.unique {identity : String} {o : Ended} {r r' : Except DispatchError Unit} {e e' : Event}
    (h : Verdict identity o r e) (h' : Verdict identity o r' e') : r' = r ∧ e' = e := by
  cases h <;> cases h' <;> exact ⟨rfl, rfl⟩

/-- Whether two things are said of deliveries that broke off in tasks of different numbers, with the same message, and differ in these
numbers only. -/
def Renumbered {α : Type} (say : String → α) (text : Option String) (a a' : α) : Prop :=
  ∃ task task', task ≠ task' ∧ a = say (abortion task text) ∧ a' = say (abortion task' text)

/-- The verdicts on two deliveries that came to the same are the same, or cite tasks of different numbers. -/
theorem Verdict.alike {identity : String} {o o' : Ended} {r r' : Except DispatchError Unit} {e e' : Event}
    (h : Verdict identity o r e) (h' : Verdict identity o' r' e') (ho : o'.outcome = o.outcome) :
    (r' = r ∧ e' = e) ∨ ∃ text, o.outcome = .panicked text ∧
      Renumbered (fun reason => .error (.sendFailure identity ⟨reason, []⟩)) text r r' ∧ Renumbered (.sendFailed identity) text e e' := by
  obtain ⟨task, outcome⟩ := o
  obtain ⟨task', outcome'⟩ := o'
  obtain rfl : outcome' = outcome := ho
  by_cases htask : task = task'
  · subst htask
    exact .inl (h.unique h')
  · cases h with
    | sent =>
      cases h'
      exact .inl ⟨rfl, rfl⟩
    | failed =>
      cases h'
      exact .inl ⟨rfl, rfl⟩
    | panicked _ text =>
      cases h'
      exact .inr ⟨text, rfl, ⟨task, task', htask, rfl, rfl⟩, ⟨task, task', htask, rfl, rfl⟩⟩

/-! ## How a delivery went -/

/-- What came of the delivery of a job, once its target was done with it, and in which task. -/
def JobStage.ended? : JobStage → Option Ended
  | .returned o => some o
  | .told o => some o
  | .finished o => some o
  | _ => none

/-- How the delivery of a job went, once its target was done with it. -/
def JobStage.outcome? (stage : JobStage) : Option Outcome :=
  stage.ended?.map (·.outcome)

/-- What the one who waits for a job is told: its result if it is finished, and else that the limit is over, if there is one. -/
def Job.reply? (j : Job) (limit : Option Span) : Option (Except DispatchError Unit) :=
  match j.stage with
  | .finished o => some (j.send.result o)
  | _ => limit.map fun l => .error (.timeout j.send.registration.identity l)

namespace Job

variable {j : Job} {o : Ended} {limit : Option Span} {r : Except DispatchError Unit}

/-- Without a limit one is told the result of a finished job, and nothing else. -/
theorem reply?_none_eq_some_iff : j.reply? none = some r ↔ ∃ o, j.stage = .finished o ∧ r = j.send.result o := by
  obtain ⟨s, stage⟩ := j
  cases stage <;> simp [reply?, eq_comm]

/-- With a limit one is told the same, or that it is over. -/
theorem reply?_eq_some (h : j.reply? limit = some r) :
    j.reply? none = some r ∨ ∃ l, limit = some l ∧ r = .error (.timeout j.send.registration.identity l) := by
  cases limit with
  | none => exact .inl h
  | some l =>
    obtain ⟨s, stage⟩ := j
    cases stage <;> simp_all [reply?, eq_comm]

/-- Who waits for a finished job is told its result, whatever the limit. -/
theorem reply?_of_finished (h : j.stage = .finished o) (limit : Option Span) : j.reply? limit = some (j.send.result o) := by
  rw [reply?, h]

/-- The subscribers are told of a job what comes of its delivery, once that is over. -/
theorem heard?_eq_some {e : Event} (h : j.heard? = some e) : ∃ o, j.stage.ended? = some o ∧ e = j.send.event o := by
  obtain ⟨s, stage⟩ := j
  cases stage <;> simp_all [heard?, JobStage.ended?]

theorem heard?_of_finished (h : j.stage = .finished o) : j.heard? = some (j.send.event o) := by
  rw [heard?, h]

end Job

namespace Workshop

variable {n : Nat} {b : Bus} {w w' : Workshop} {t : Nat} {j : Job}

/-- What the pool answers for a ticket is what its job has come to. -/
theorem Sound.await?_eq (h : w.Sound n b) (hj : w.jobs[t]? = some j) (limit : Option Span) : w.pool.await? limit t = j.reply? limit := by
  obtain ⟨s, stage⟩ := j
  have hs := h.submission hj
  cases stage <;> cases limit <;> simp [Pool.await?, Pool.result?, hs, JobStage.phase, Job.reply?]

/-- What was published about a ticket is what its job has come to. -/
theorem Sound.eventsOf_eq (h : w.Sound n b) (hj : w.jobs[t]? = some j) : w.eventsOf t = j.heard?.toList := by
  rw [h.heard, hj, Option.bind_some]

/-- What was published about a ticket was published. -/
theorem Sound.mem_published (h : w.Sound n b) {e : Event} (he : e ∈ w.eventsOf t) : e ∈ w.bus.published := by
  obtain ⟨p, hp, rfl⟩ := List.mem_map.mp he
  rw [h.published]
  exact List.mem_append_right _ (List.mem_map_of_mem (List.mem_filter.mp hp).1)

/-- A job keeps its send, how its delivery went, and that it is finished. -/
structure Keeps (j j' : Job) : Prop where
  send : j'.send = j.send
  ended : ∀ o, j.stage.ended? = some o → j'.stage.ended? = some o
  finished : ∀ o, j.stage = .finished o → j'.stage = .finished o

theorem Keeps.refl (j : Job) : Keeps j j :=
  ⟨rfl, fun _ h => h, fun _ h => h⟩

theorem Keeps.trans {j j' j'' : Job} (h : Keeps j j') (h' : Keeps j' j'') : Keeps j j'' :=
  ⟨h'.send.trans h.send, fun o ho => h'.ended o (h.ended o ho), fun o ho => h'.finished o (h.finished o ho)⟩

/-- A job that gets to another stage keeps its send. -/
theorem keeps_moved {s : Send} {before after : JobStage} {t' : Nat} (hj' : w.jobs[t']? = some ⟨s, before⟩)
    (hkeep : ∀ o, before.ended? = some o → after.ended? = some o) (hleft : 0 < before.left) (hj : w.jobs[t]? = some j) :
    ∃ j', (w.jobs.set t' ⟨s, after⟩)[t]? = some j' ∧ Keeps j j' := by
  by_cases ht : t' = t
  · subst ht
    obtain rfl := Option.some.inj (hj'.symm.trans hj)
    refine ⟨_, List.getElem?_set_self (List.getElem?_eq_some_iff.mp hj).1, rfl, hkeep, ?_⟩
    rintro o rfl
    exact absurd hleft (Nat.lt_irrefl 0)
  · exact ⟨j, by rw [List.getElem?_set_ne ht, hj], .refl j⟩

/-- No step takes a job away or changes how its delivery went. -/
theorem Step.keeps (h : w.Step w') (hj : w.jobs[t]? = some j) : ∃ j', w'.jobs[t]? = some j' ∧ Keeps j j' := by
  cases h with
  | submit s =>
    refine ⟨j, ?_, .refl j⟩
    rw [Workshop.submit, List.getElem?_append_left (List.getElem?_eq_some_iff.mp hj).1, hj]
  | grant hj' _ =>
    refine keeps_moved hj' ?_ (by decide) hj
    rintro _ ⟨⟩
  | call hj' =>
    refine keeps_moved hj' ?_ (by decide) hj
    rintro _ ⟨⟩
  | ret o hj' =>
    refine keeps_moved hj' ?_ (by decide) hj
    rintro _ ⟨⟩
  | tell hj' => exact keeps_moved hj' (fun _ h => h) Nat.two_pos hj
  | finish hj' _ => exact keeps_moved hj' (fun _ h => h) Nat.one_pos hj
  | announce e => exact ⟨j, hj, .refl j⟩

/-- No run does. -/
theorem runs_keeps (h : ReflTransGen Step w w') (hj : w.jobs[t]? = some j) : ∃ j', w'.jobs[t]? = some j' ∧ Keeps j j' := by
  induction h with
  | refl => exact ⟨j, hj, .refl j⟩
  | tail _ hstep ih =>
    obtain ⟨j₁, hj₁, hkeep⟩ := ih
    obtain ⟨j₂, hj₂, hkeep'⟩ := hstep.keeps hj₁
    exact ⟨j₂, hj₂, hkeep.trans hkeep'⟩

/-- Every job can be finished, with the outcome that its delivery had if that was over. -/
theorem Sound.can_finish_job (h : w.Sound n b) :
    ∃ w', ReflTransGen Step w w' ∧
      ∀ (t : Nat) (j : Job), w.jobs[t]? = some j →
        ∃ o, w'.jobs[t]? = some ⟨j.send, .finished o⟩ ∧ ∀ o', j.stage.ended? = some o' → o' = o := by
  obtain ⟨w', hruns, hall, -⟩ := h.can_finish
  refine ⟨w', hruns, fun t j hj => ?_⟩
  obtain ⟨⟨s, stage⟩, hj', hkeep⟩ := runs_keeps hruns hj
  obtain ⟨o, rfl⟩ := hall _ (List.mem_of_getElem? hj')
  obtain rfl := hkeep.send
  exact ⟨o, hj', fun o' ho' => (Option.some.inj (hkeep.ended o' ho')).symm⟩

end Workshop

/-! ## Waiting for one send -/

namespace Office

/-- The offices that come of an opened one. -/
def Reachable (n : Nat) (b : Bus) (x : Office) : Prop :=
  ReflTransGen Step ⟨Workshop.opened n b, fun _ => .held⟩ x

/-- What the one who waits for a ticket can be told next. -/
def Gives (x : Office) (t : Nat) (limit : Option Span) (r : Except DispatchError Unit) : Prop :=
  x.tickets t = .waiting limit ∧ ∃ y, x.Step y ∧ y.tickets t = .answered r

variable {n : Nat} {b : Bus} {x y : Office} {t : Nat} {j : Job} {limit : Option Span} {r : Except DispatchError Unit}

theorem Reachable.sound (h : Reachable n b x) : x.workshop.Sound n b :=
  (Workshop.sound_opened n b).runs (runs_workshop h)

/-- Only an answer of the pool answers a ticket. -/
theorem Step.answered (h : x.Step y) (hx : x.tickets t = .waiting limit) (hy : y.tickets t = .answered r) :
    x.workshop.pool.await? limit t = some r := by
  cases h with
  | work => exact absurd (hx.symm.trans hy) nofun
  | wait limit' ht =>
    simp only [Function.update_apply] at hy
    split at hy <;> simp_all
  | answer ht hr =>
    simp only [Function.update_apply] at hy
    split at hy <;> simp_all
  | drop t' =>
    simp only [Function.update_apply] at hy
    split at hy <;> simp_all

/-- Who waits for a ticket is told what its job has come to. -/
theorem Reachable.gives_iff (h : Reachable n b x) (hj : x.workshop.jobs[t]? = some j) :
    x.Gives t limit r ↔ x.tickets t = .waiting limit ∧ j.reply? limit = some r := by
  rw [← h.sound.await?_eq hj]
  constructor
  · rintro ⟨hwaiting, y, hstep, hy⟩
    exact ⟨hwaiting, hstep.answered hwaiting hy⟩
  · rintro ⟨hwaiting, hr⟩
    exact ⟨hwaiting, _, .answer hwaiting hr, Function.update_self ..⟩

/-- What is done in the workshop leaves the tickets as they are. -/
theorem runs_work {w : Workshop} (h : ReflTransGen Workshop.Step x.workshop w) : ReflTransGen Step x { x with workshop := w } := by
  induction h with
  | refl => exact .refl
  | tail _ hstep ih => exact ih.tail (.work hstep)

/-- What is told of a job, to the subscribers and to the one who waits for it: nothing before its delivery is over, and the verdict on that
delivery then. The one who waits is told it once the job is finished, or before that, where there is a limit, that the limit is over. -/
structure Tells (x : Office) (t : Nat) (j : Job) : Prop where
  events : ∀ e ∈ x.workshop.eventsOf t, ∃ o r, j.stage.ended? = some o ∧ Verdict j.send.registration.identity o r e
  once : (x.workshop.eventsOf t).length ≤ 1
  published : ∀ e ∈ x.workshop.eventsOf t, e ∈ x.workshop.bus.published
  /-- The one who waits is told what the pool answers. -/
  asked : ∀ limit r, x.Gives t limit r → x.workshop.pool.await? limit t = some r
  result : ∀ r, x.workshop.pool.await? none t = some r →
    ∃ o e, j.stage.ended? = some o ∧ Verdict j.send.registration.identity o r e ∧ x.workshop.eventsOf t = [e]
  limited : ∀ l r, x.workshop.pool.await? (some l) t = some r →
    r = .error (.timeout j.send.registration.identity l) ∨ x.workshop.pool.await? none t = some r
  /-- The one who waits is not left waiting: whatever happened, it can come to the answer, and the answer is the verdict. -/
  answered : x.tickets t = .waiting none →
    ∃ y o r e, ReflTransGen Step x y ∧ y.Gives t none r ∧ (∀ o', j.stage.ended? = some o' → o' = o) ∧
      Verdict j.send.registration.identity o r e ∧ y.workshop.eventsOf t = [e]

/-- A finished job with what is told of it. -/
theorem Reachable.finished (h : Reachable n b x) (hj : x.workshop.jobs[t]? = some j) {o : Ended} (ho : j.stage = .finished o) :
    j.stage.ended? = some o ∧ Verdict j.send.registration.identity o (j.send.result o) (j.send.event o) ∧
      x.workshop.eventsOf t = [j.send.event o] := by
  refine ⟨by rw [ho]; rfl, verdict_iff.mpr ⟨rfl, rfl⟩, ?_⟩
  rw [h.sound.eventsOf_eq hj, Job.heard?_of_finished ho]
  rfl

/-- What is told of a job is told by how its delivery went. -/
theorem Reachable.tells (h : Reachable n b x) (hj : x.workshop.jobs[t]? = some j) : x.Tells t j where
  events e he := by
    rw [h.sound.eventsOf_eq hj, Option.mem_toList] at he
    obtain ⟨o, ho, rfl⟩ := Job.heard?_eq_some he
    exact ⟨o, _, ho, verdict_iff.mpr ⟨rfl, rfl⟩⟩
  once := by
    rw [h.sound.eventsOf_eq hj]
    exact Option.length_toList_le
  published e he := h.sound.mem_published he
  asked limit r hr := by
    rw [h.sound.await?_eq hj]
    exact ((h.gives_iff hj).mp hr).2
  result r hr := by
    rw [h.sound.await?_eq hj] at hr
    obtain ⟨o, ho, rfl⟩ := Job.reply?_none_eq_some_iff.mp hr
    exact ⟨o, _, h.finished hj ho⟩
  limited l r hr := by
    rw [h.sound.await?_eq hj] at hr ⊢
    rcases Job.reply?_eq_some hr with hr | ⟨l', hl, rfl⟩
    · exact .inr hr
    · obtain rfl := Option.some.inj hl
      exact .inl rfl
  answered hwaiting := by
    obtain ⟨w, hruns, hfinish⟩ := h.sound.can_finish_job
    obtain ⟨o, hj', hsame⟩ := hfinish t j hj
    have hrun : ReflTransGen Step x { x with workshop := w } := runs_work hruns
    have hy : Reachable n b { x with workshop := w } := ReflTransGen.trans h hrun
    have hgives := (hy.gives_iff hj').mpr ⟨hwaiting, Job.reply?_of_finished rfl none⟩
    obtain ⟨-, hverdict, hevents⟩ := hy.finished hj' rfl
    exact ⟨_, o, _, _, hrun, hgives, hsame, hverdict, hevents⟩

/-- In two offices, two jobs for one identity whose deliveries came to the same are told alike, and the same if their tasks have one
number. -/
structure Alike (x : Office) (t : Nat) (j : Job) (x' : Office) (t' : Nat) (j' : Job) : Prop where
  events : ∀ e e', e ∈ x.workshop.eventsOf t → e' ∈ x'.workshop.eventsOf t' →
    e' = e ∨ ∃ text, j.stage.outcome? = some (.panicked text) ∧ Renumbered (.sendFailed j.send.registration.identity) text e e'
  results : ∀ r r', x.workshop.pool.await? none t = some r → x'.workshop.pool.await? none t' = some r' →
    r' = r ∨ ∃ text, j.stage.outcome? = some (.panicked text) ∧
      Renumbered (fun reason => .error (.sendFailure j.send.registration.identity ⟨reason, []⟩)) text r r'
  same : j'.stage.ended? = j.stage.ended? →
    (∀ e e', e ∈ x.workshop.eventsOf t → e' ∈ x'.workshop.eventsOf t' → e' = e) ∧
      ∀ r r', x.workshop.pool.await? none t = some r → x'.workshop.pool.await? none t' = some r' → r' = r

/-- What is told of two jobs is alike if their deliveries came to the same. -/
theorem Tells.alike {x' : Office} {t' : Nat} {j' : Job} (h : x.Tells t j) (h' : x'.Tells t' j')
    (hidentity : j'.send.registration.identity = j.send.registration.identity) (houtcome : j'.stage.outcome? = j.stage.outcome?) :
    Alike x t j x' t' j' := by
  have hsame {o o' : Ended} (ho : j.stage.ended? = some o) (ho' : j'.stage.ended? = some o') :
      o'.outcome = o.outcome ∧ j.stage.outcome? = some o.outcome := by
    rw [JobStage.outcome?, JobStage.outcome?, ho, ho'] at houtcome
    exact ⟨Option.some.inj houtcome, by rw [JobStage.outcome?, ho, Option.map_some]⟩
  constructor
  case events =>
    intro e e' he he'
    obtain ⟨o, r, ho, hv⟩ := h.events e he
    obtain ⟨o', r', ho', hv'⟩ := h'.events e' he'
    obtain ⟨hto, hj⟩ := hsame ho ho'
    rw [hj]
    rcases hv.alike (hidentity ▸ hv') hto with ⟨-, hequal⟩ | ⟨text, hbroke, -, hcited⟩
    · exact .inl hequal
    · exact .inr ⟨text, congrArg some hbroke, hcited⟩
  case results =>
    intro r r' hr hr'
    obtain ⟨o, e, ho, hv, -⟩ := h.result r hr
    obtain ⟨o', e', ho', hv', -⟩ := h'.result r' hr'
    obtain ⟨hto, hj⟩ := hsame ho ho'
    rw [hj]
    rcases hv.alike (hidentity ▸ hv') hto with ⟨hequal, -⟩ | ⟨text, hbroke, hcited, -⟩
    · exact .inl hequal
    · exact .inr ⟨text, congrArg some hbroke, hcited⟩
  case same =>
    intro hended
    constructor
    · intro e e' he he'
      obtain ⟨o, r, ho, hv⟩ := h.events e he
      obtain ⟨o', r', ho', hv'⟩ := h'.events e' he'
      obtain rfl := Option.some.inj (ho.symm.trans (hended.symm.trans ho'))
      exact (hv.unique (hidentity ▸ hv')).2
    · intro r r' hr hr'
      obtain ⟨o, e, ho, hv, -⟩ := h.result r hr
      obtain ⟨o', e', ho', hv', -⟩ := h'.result r' hr'
      obtain rfl := Option.some.inj (ho.symm.trans (hended.symm.trans ho'))
      exact (hv.unique (hidentity ▸ hv')).1

end Office

/-! ## Waiting for many sends -/

/-- A handle to a send that was submitted. -/
structure Handle where
  identity : String
  ticket : Nat

/-- A handle that is waited for, with the answer when there is one. -/
structure Awaited extends Handle where
  answer : Option (Except DispatchError Unit) := none

/-- Somebody who waits for the sends of some handles at once, for a while where there is a limit, in an office. -/
structure Gathering where
  office : Office
  limit : Option Span
  awaited : List Awaited

namespace Gathering

/-- Waiting for some handles begins. -/
def begun (x : Office) (limit : Option Span) (handles : List Handle) : Gathering where
  office := x
  limit
  awaited := handles.map fun h => { h with }

/-- What happens next: whatever can happen in the office, or one of the handles is answered. -/
inductive Step (g : Gathering) : Gathering → Prop
  | other {x} (h : g.office.Step x) : Step g { g with office := x }
  | answer {i a r} (ha : g.awaited[i]? = some a) (hopen : a.answer = none)
    (hr : g.office.workshop.pool.await? g.limit a.ticket = some r) :
    Step g { g with awaited := g.awaited.set i { a with answer := some r } }

/-- The results of all handles, each with its identity, once all are answered. -/
def joined? : List Awaited → Option (List (String × Except DispatchError Unit))
  | [] => some []
  | a :: rest => do
    let r ← a.answer
    return (a.identity, r) :: (← joined? rest)

/-- Whether a handle has been answered with what its job has come to. -/
def Answers (limit : Option Span) (j : Job) (r : Except DispatchError Unit) : Prop :=
  j.reply? none = some r ∨ ∃ l, limit = some l ∧ r = .error (.timeout j.send.registration.identity l)

/-- A gathering in an office that can be reached, which waits for some handles and has answers of their jobs only. -/
structure Sound (n : Nat) (b : Bus) (limit : Option Span) (handles : List Handle) (g : Gathering) : Prop where
  reachable : Office.Reachable n b g.office
  limited : g.limit = limit
  handled : g.awaited.map Awaited.toHandle = handles
  answered : ∀ a ∈ g.awaited, ∃ j, g.office.workshop.jobs[a.ticket]? = some j ∧ j.send.registration.identity = a.identity ∧
    ∀ r, a.answer = some r → Answers limit j r

variable {n : Nat} {b : Bus} {limit : Option Span} {handles : List Handle} {g g' : Gathering}

/-- There are results when every handle is answered: one for each, in their order, under its identity. -/
theorem joined?_eq_some_iff {as : List Awaited} {rs : List (String × Except DispatchError Unit)} :
    joined? as = some rs ↔ List.Forall₂ (fun a p => a.answer = some p.2 ∧ p.1 = a.identity) as rs := by
  induction as generalizing rs with
  | nil => cases rs <;> simp [joined?]
  | cons a rest ih =>
    simp only [joined?, Option.bind_eq_bind, Option.bind_eq_some_iff]
    constructor
    · rintro ⟨r, hr, more, hmore, hrs⟩
      obtain rfl := Option.some.inj hrs
      exact .cons ⟨hr, rfl⟩ (ih.mp hmore)
    · rintro (_ | ⟨⟨hr, hidentity⟩, hmore⟩)
      exact ⟨_, hr, _, ih.mpr hmore, by rw [← hidentity]; rfl⟩

/-- Waiting for handles of sends that were submitted begins without answers. -/
theorem sound_begun {x : Office} (hx : Office.Reachable n b x)
    (hvalid : ∀ h ∈ handles, ∃ j, x.workshop.jobs[h.ticket]? = some j ∧ j.send.registration.identity = h.identity) :
    (begun x limit handles).Sound n b limit handles where
  reachable := hx
  limited := rfl
  handled := by
    rw [begun, List.map_map]
    exact List.map_id _
  answered a ha := by
    obtain ⟨h, hh, rfl⟩ := List.mem_map.mp ha
    obtain ⟨j, hj, hidentity⟩ := hvalid h hh
    exact ⟨j, hj, hidentity, fun _ h => nomatch h⟩

/-- The answers of a job stay its answers. -/
theorem Answers.keeps {j j' : Job} {r : Except DispatchError Unit} (h : Answers limit j r) (hk : Workshop.Keeps j j') :
    Answers limit j' r := by
  rcases h with h | ⟨l, hl, rfl⟩
  · obtain ⟨o, ho, rfl⟩ := Job.reply?_none_eq_some_iff.mp h
    exact .inl (Job.reply?_none_eq_some_iff.mpr ⟨o, hk.finished o ho, by rw [hk.send]⟩)
  · exact .inr ⟨l, hl, by rw [hk.send]⟩

/-- The workshop of an office keeps its jobs whatever happens. -/
theorem keeps_of_step {x y : Office} (h : x.Step y) {t : Nat} {j : Job} (hj : x.workshop.jobs[t]? = some j) :
    ∃ j', y.workshop.jobs[t]? = some j' ∧ Workshop.Keeps j j' := by
  rcases h.work_or_same with hsame | ⟨hwork, -⟩
  · exact ⟨j, by rw [hsame, hj], .refl j⟩
  · exact hwork.keeps hj

/-- Every step keeps the answers those of the jobs. -/
theorem Sound.step (h : g.Sound n b limit handles) (hstep : g.Step g') : g'.Sound n b limit handles := by
  cases hstep with
  | other hx =>
    refine ⟨h.reachable.tail hx, h.limited, h.handled, fun a ha => ?_⟩
    obtain ⟨j, hj, hidentity, hanswers⟩ := h.answered a ha
    obtain ⟨j', hj', hkeep⟩ := keeps_of_step hx hj
    exact ⟨j', hj', by rw [hkeep.send, hidentity], fun r hr => (hanswers r hr).keeps hkeep⟩
  | @answer i a r ha hopen hr =>
    refine ⟨h.reachable, h.limited, ?_, fun a' ha' => ?_⟩
    · obtain ⟨hlt, rfl⟩ := List.getElem?_eq_some_iff.mp ha
      rw [List.map_set, ← h.handled]
      change (g.awaited.map Awaited.toHandle).set i (g.awaited[i]).toHandle = _
      rw [← List.map_set, List.set_getElem_self]
    · rcases List.mem_or_eq_of_mem_set ha' with ha' | rfl
      · exact h.answered a' ha'
      · obtain ⟨j, hj, hidentity, -⟩ := h.answered a (List.mem_of_getElem? ha)
        refine ⟨j, hj, hidentity, fun r' hr' => ?_⟩
        obtain rfl := Option.some.inj hr'
        rw [h.reachable.sound.await?_eq hj, h.limited] at hr
        exact Job.reply?_eq_some hr

/-- So does a run. -/
theorem Sound.runs (h : g.Sound n b limit handles) (hruns : ReflTransGen Step g g') : g'.Sound n b limit handles := by
  induction hruns with
  | refl => exact h
  | tail _ hstep ih => exact ih.step hstep

/-- Handles of finished jobs can all be answered. -/
theorem Sound.can_answer (h : g.Sound n b limit handles)
    (hfinished : ∀ a ∈ g.awaited, ∃ j o, g.office.workshop.jobs[a.ticket]? = some j ∧ j.stage = .finished o) :
    ∃ g', ReflTransGen Step g g' ∧ ∀ a ∈ g'.awaited, a.answer ≠ none := by
  induction hopen : g.awaited.countP (fun a => a.answer.isNone) generalizing g with
  | zero =>
    refine ⟨g, .refl, fun a ha hnone => ?_⟩
    exact List.countP_eq_zero.mp hopen a ha (Option.isNone_iff_eq_none.mpr hnone)
  | succ k ih =>
    obtain ⟨a, ha, hnone⟩ := List.countP_pos_iff.mp (Nat.lt_of_lt_of_eq (Nat.succ_pos k) hopen.symm)
    obtain ⟨i, hi⟩ := List.getElem?_of_mem ha
    obtain ⟨j, o, hj, ho⟩ := hfinished a ha
    have hr := (h.reachable.sound.await?_eq hj g.limit).trans (Job.reply?_of_finished ho g.limit)
    have hstep : g.Step _ := .answer hi (Option.isNone_iff_eq_none.mp hnone) hr
    obtain ⟨hlt, hget⟩ := List.getElem?_eq_some_iff.mp hi
    have hfinished' : ∀ a' ∈ g.awaited.set i { a with answer := some (j.send.result o) },
        ∃ j o, g.office.workshop.jobs[a'.ticket]? = some j ∧ j.stage = .finished o := by
      intro a' ha'
      rcases List.mem_or_eq_of_mem_set ha' with ha' | rfl
      · exact hfinished a' ha'
      · exact ⟨j, o, hj, ho⟩
    have hfewer : (g.awaited.set i { a with answer := some (j.send.result o) }).countP (fun a => a.answer.isNone) = k := by
      rw [List.countP_set hlt, hget, hnone, hopen]
      rfl
    obtain ⟨g', hruns, hall⟩ := ih (h.step hstep) hfinished' hfewer
    exact ⟨g', .head hstep hruns, hall⟩

/-- Handles that are all answered have results. -/
theorem exists_joined {as : List Awaited} (h : ∀ a ∈ as, a.answer ≠ none) : ∃ rs, joined? as = some rs := by
  induction as with
  | nil => exact ⟨[], rfl⟩
  | cons a rest ih =>
    obtain ⟨r, hr⟩ := Option.ne_none_iff_exists'.mp (h a List.mem_cons_self)
    obtain ⟨more, hmore⟩ := ih fun a' ha' => h a' (List.mem_cons_of_mem _ ha')
    exact ⟨(a.identity, r) :: more, by simp [joined?, hr, hmore]⟩

/-- What happens in the office leaves the answers as they are. -/
theorem runs_other {x : Office} (h : ReflTransGen Office.Step g.office x) : ReflTransGen Step g { g with office := x } := by
  induction h with
  | refl => exact .refl
  | tail _ hstep ih => exact ih.tail (.other hstep)

/-- However far a gathering is, it can come to its results. -/
theorem Sound.can_join (h : g.Sound n b limit handles) : ∃ g' rs, ReflTransGen Step g g' ∧ joined? g'.awaited = some rs := by
  obtain ⟨w, hruns, hfinish⟩ := h.reachable.sound.can_finish_job
  have hrun := runs_other (Office.runs_work hruns)
  have hfinished : ∀ a ∈ g.awaited, ∃ j o, w.jobs[a.ticket]? = some j ∧ j.stage = .finished o := by
    intro a ha
    obtain ⟨j, hj, -⟩ := h.answered a ha
    obtain ⟨o, hj', -⟩ := hfinish _ _ hj
    exact ⟨_, o, hj', rfl⟩
  obtain ⟨g', hruns', hall⟩ := (h.runs hrun).can_answer hfinished
  obtain ⟨rs, hrs⟩ := exists_joined hall
  exact ⟨g', rs, hrun.trans hruns', hrs⟩

/-- The results of a gathering are answers of the jobs of its handles, one for each, in their order and under its identity. -/
theorem Sound.joined (h : g.Sound n b limit handles) {rs : List (String × Except DispatchError Unit)} (hrs : joined? g.awaited = some rs) :
    List.Forall₂ (fun handle p => ∃ j, g.office.workshop.jobs[handle.ticket]? = some j ∧
      j.send.registration.identity = handle.identity ∧ p.1 = handle.identity ∧ Answers limit j p.2) handles rs := by
  rw [← h.handled, List.forall₂_map_left_iff]
  refine ((List.forall₂_and_left ..).mpr ⟨fun _ ha => ha, joined?_eq_some_iff.mp hrs⟩).imp ?_
  rintro a p ⟨ha, hanswer, hidentity⟩
  obtain ⟨j, hj, hj', hanswers⟩ := h.answered a ha
  exact ⟨j, hj, hj', hidentity, hanswers p.2 hanswer⟩

/-- A list is filtered to the results of its items if all have one. -/
theorem filterMap_eq_of_forall₂ {α β : Type} {f : α → Option β} {as : List α} {bs : List β}
    (h : List.Forall₂ (fun a b => f a = some b) as bs) : as.filterMap f = bs := by
  induction h with
  | nil => rfl
  | cons hfirst _ ih => rw [List.filterMap_cons_some hfirst, ih]

/-- Without a limit they are what the program gives for the tickets of the handles. -/
theorem Sound.sendResults_eq (h : g.Sound n b none handles) {rs : List (String × Except DispatchError Unit)}
    (hrs : joined? g.awaited = some rs) {hub : Hub} (hpool : hub.pool = g.office.workshop.pool) :
    Program.sendResults hub none (handles.map Handle.ticket) = rs := by
  have hs := h.reachable.sound
  rw [Program.sendResults, List.filterMap_map, hpool]
  refine filterMap_eq_of_forall₂ ((h.joined hrs).imp ?_)
  rintro handle p ⟨j, hj, hidentity, hp, hanswer⟩
  rcases hanswer with hr | ⟨l, hl, -⟩
  · simp only [Function.comp_apply, hs.submission hj, hs.await?_eq hj none, hr, Option.bind_eq_bind, Option.bind_some, hidentity, ← hp]
    rfl
  · cases hl

end Gathering

/-! ## Isolation -/

namespace Office

/-- Sends are isolated from each other. Whatever was submitted to an office, and in whatever order everything went: what is told of a send,
to the subscribers and to the one who waits for it, is the verdict on its own delivery. Two sends to one identity, in two offices that need
not have anything else in common, are told alike if their deliveries came to the same: with no difference at all, but for the numbers of
their tasks if they broke off. Who waits for many sends is told of each, in their order and under its identity, what waiting for it alone
would tell, or where there is a limit, that it is over; and can come to these results whatever happened. -/
theorem sends_are_isolated {n n' : Nat} {b b' : Bus} {x x' : Office} (hx : Reachable n b x) (hx' : Reachable n' b' x') :
    (∀ t s, x.workshop.submitted[t]? = some s → ∃ stage, x.workshop.jobs[t]? = some ⟨s, stage⟩ ∧ x.Tells t ⟨s, stage⟩) ∧
      (∀ t j t' j', x.workshop.jobs[t]? = some j → x'.workshop.jobs[t']? = some j' →
        j'.send.registration.identity = j.send.registration.identity → j'.stage.outcome? = j.stage.outcome? →
          Alike x t j x' t' j') ∧
      ∀ limit handles,
        (∀ h ∈ handles, ∃ j, x.workshop.jobs[h.ticket]? = some j ∧ j.send.registration.identity = h.identity) →
          ∀ g, ReflTransGen Gathering.Step (Gathering.begun x limit handles) g →
            (∀ rs, Gathering.joined? g.awaited = some rs →
              List.Forall₂ (fun handle p => p.1 = handle.identity ∧
                (g.office.workshop.pool.await? none handle.ticket = some p.2 ∨
                  ∃ l, limit = some l ∧ p.2 = .error (.timeout handle.identity l))) handles rs ∧
              (limit = none → ∀ hub, hub.pool = g.office.workshop.pool →
                Program.sendResults hub none (handles.map Handle.ticket) = rs)) ∧
            ∃ g' rs, ReflTransGen Gathering.Step g g' ∧ Gathering.joined? g'.awaited = some rs := by
  refine ⟨?_, ?_, ?_⟩
  · intro t s hs
    obtain ⟨stage, hj, -⟩ := hx.sound.record hs
    exact ⟨stage, hj, hx.tells hj⟩
  · intro t j t' j' hj hj' hidentity houtcome
    exact (hx.tells hj).alike (hx'.tells hj') hidentity houtcome
  · intro limit handles hvalid g hruns
    have hg := (Gathering.sound_begun hx hvalid).runs hruns
    refine ⟨fun rs hrs => ⟨(hg.joined hrs).imp ?_, ?_⟩, hg.can_join⟩
    · rintro handle p ⟨j, hj, hidentity, hp, hr | ⟨l, hl, hr⟩⟩
      · exact ⟨hp, .inl ((hg.reachable.sound.await?_eq hj none).trans hr)⟩
      · exact ⟨hp, .inr ⟨l, hl, by rw [hr, hidentity]⟩⟩
    · rintro rfl hub hpool
      exact hg.sendResults_eq hrs hpool

/-- Of two sends the first breaks off and its ticket is thrown away, and the second is told as it is where it is alone. Who waits for both
is told of both, in their order, though the second is answered first. -/
theorem panicking_send_leaves_its_neighbour :
    ∃ x x', Reachable 0 ⟨1, []⟩ x ∧ Reachable 3 ⟨1, []⟩ x' ∧ x.workshop.jobs.length = 2 ∧ x'.workshop.jobs.length = 1 ∧
      x.workshop.eventsOf 0 = [.sendFailed "a" (Outcome.aborted 7 "oops").full] ∧ x.workshop.eventsOf 1 = x'.workshop.eventsOf 0 ∧
      x.workshop.pool.await? none 1 = x'.workshop.pool.await? none 0 ∧ x'.workshop.pool.await? none 0 = some (.ok ()) ∧
      ∀ hub : Hub, hub.pool = x.workshop.pool →
        Program.sendResults hub none [0, 1] = [("a", .error (.sendFailure "a" (Outcome.aborted 7 "oops"))), ("a", .ok ())] := by
  let e : Registration := ⟨"a", 0, 0, ⟨{}, none, .log⟩⟩
  let s : Send := ⟨e, {}⟩
  have hx : Reachable 0 ⟨1, []⟩ _ :=
    .head (.work (.submit s)) <| .head (.drop 0) <| .head (.work (.submit s)) <| .head (.work (.grant (t := 0) rfl rfl)) <|
    .head (.work (.call (t := 0) rfl)) <| .head (.work (.ret (t := 0) ⟨7, .panicked "oops"⟩ rfl)) <| .head (.work (.tell (t := 0) rfl)) <|
    .head (.work (.finish (t := 0) rfl rfl)) <| .head (.work (.grant (t := 1) rfl rfl)) <| .head (.work (.call (t := 1) rfl)) <|
    .head (.work (.ret (t := 1) ⟨8, .sent⟩ rfl)) <| .head (.work (.tell (t := 1) rfl)) <| .single (.work (.finish (t := 1) rfl rfl))
  have hx' : Reachable 3 ⟨1, []⟩ _ :=
    .head (.work (.submit s)) <| .head (.work (.grant (t := 0) rfl rfl)) <| .head (.work (.call (t := 0) rfl)) <|
    .head (.work (.ret (t := 0) ⟨8, .sent⟩ rfl)) <| .head (.work (.tell (t := 0) rfl)) <| .single (.work (.finish (t := 0) rfl rfl))
  obtain ⟨-, halike, hgather⟩ := sends_are_isolated hx hx'
  obtain ⟨hevents, hresults⟩ := (halike 1 _ 0 _ rfl rfl rfl rfl).same rfl
  have hjoin := hgather none [⟨"a", 0⟩, ⟨"a", 1⟩]
    (List.forall_mem_cons.mpr ⟨⟨_, rfl, rfl⟩, List.forall_mem_cons.mpr ⟨⟨_, rfl, rfl⟩, List.forall_mem_nil _⟩⟩) _ <|
    .head (.answer (i := 1) rfl rfl rfl) (.single (.answer (i := 0) rfl rfl rfl))
  refine ⟨_, _, hx, hx', rfl, rfl, rfl, ?_, ?_, rfl, ?_⟩
  · exact congrArg (fun e => [e]) (hevents _ _ List.mem_cons_self List.mem_cons_self).symm
  · exact congrArg some (hresults _ _ rfl rfl).symm
  · intro hub hpool
    exact (hjoin.1 _ rfl).2 rfl hub hpool

end Office

end Herald
