import Herald.Hub
import Mathlib.Logic.Function.Basic
import Mathlib.Logic.Relation

/-!
# Workers and sends

What becomes of the sends of a pool, in steps as small as anyone can tell apart: a job waits until it is granted a worker, its target is
handed the message and is done with it at some time, the subscribers are told, and then the worker is given back. The jobs take their
steps in any order, while others publish what they like and whoever holds a ticket waits for it, loses patience or throws it away.

In a sound workshop the workers that are held are those of the jobs between the grant and the end (`Sound.permits`), and what a target was
handed and the subscribers were told is read off the stage of the job (`Sound.handed`, `Sound.heard`). Every step keeps it sound, and
tickets have no part in it. The steps that the hub takes with its pool are runs of such steps.
-/

namespace Herald

open Relation

/-- How far a send has come. -/
inductive JobStage
  | waiting
  | granted
  /-- The target is busy with the message. -/
  | sending
  | returned (ended : Ended)
  /-- The subscribers know how the send ended. -/
  | told (ended : Ended)
  | finished (ended : Ended)
  deriving DecidableEq

/-- A send that was submitted, with the stage it has come to. -/
structure Job where
  send : Send
  stage : JobStage := .waiting

namespace JobStage

/-- The stage as the pool sees it. -/
def phase : JobStage → Phase
  | .waiting => .waiting
  | .finished o => .finished o
  | _ => .sending

/-- Whether a job at this stage holds a worker. -/
def holds : JobStage → Bool
  | .waiting => false
  | .finished _ => false
  | _ => true

/-- How many steps are left to a job at this stage. -/
def left : JobStage → Nat
  | .waiting => 5
  | .granted => 4
  | .sending => 3
  | .returned _ => 2
  | .told _ => 1
  | .finished _ => 0

end JobStage

namespace Job

/-- The job as the pool lists it. -/
def submission (j : Job) : Submission :=
  ⟨j.send, j.stage.phase⟩

/-- What the target of a job was handed so far. -/
def handed? (j : Job) : Option Send :=
  match j.stage with
  | .waiting => none
  | .granted => none
  | _ => some j.send

/-- What the subscribers were told of a job so far. -/
def heard? (j : Job) : Option Event :=
  match j.stage with
  | .told o => some (j.send.event o)
  | .finished o => some (j.send.event o)
  | _ => none

end Job

/-- A pool and a bus, what was submitted and what became of it by ticket, the calls of targets in their order, and what was published
since, each for the job it was about or for none. -/
structure Workshop where
  pool : Pool
  bus : Bus
  submitted : List Send := []
  jobs : List Job := []
  calls : List (Nat × Send) := []
  posted : List (Option Nat × Event) := []

namespace Workshop

/-- A workshop with so many workers, and nothing to do. -/
def opened (n : Nat) (b : Bus) : Workshop where
  pool := Pool.ofWorkers n
  bus := b

/-- The workshop with a job at another stage. -/
def moved (w : Workshop) (ticket : Nat) (send : Send) (stage : JobStage) : Workshop :=
  { w with jobs := w.jobs.set ticket ⟨send, stage⟩ }

/-- The workshop after something was published, about a job or about none. -/
def post (w : Workshop) (ticket : Option Nat) (e : Event) : Workshop :=
  { w with bus := w.bus.publish e, posted := w.posted ++ [(ticket, e)] }

/-- The workshop with one more job. -/
def submit (w : Workshop) (s : Send) : Workshop :=
  { w with pool := (w.pool.submit s).2, submitted := w.submitted ++ [s], jobs := w.jobs ++ [⟨s, .waiting⟩] }

/-- What a job or somebody else does next. -/
inductive Step (w : Workshop) : Workshop → Prop
  | submit (s : Send) : Step w (w.submit s)
  | grant {t s pool} (hj : w.jobs[t]? = some ⟨s, .waiting⟩) (hp : w.pool.start? t = some pool) :
    Step w ({ w with pool }.moved t s .granted)
  | call {t s} (hj : w.jobs[t]? = some ⟨s, .granted⟩) : Step w ({ w with calls := w.calls ++ [(t, s)] }.moved t s .sending)
  /-- The target is done with the message: it delivered it, or it failed, or it broke off, in a task of any number. -/
  | ret {t s} (o : Ended) (hj : w.jobs[t]? = some ⟨s, .sending⟩) : Step w (w.moved t s (.returned o))
  | tell {t s o} (hj : w.jobs[t]? = some ⟨s, .returned o⟩) : Step w ((w.post (some t) (s.event o)).moved t s (.told o))
  | finish {t s o pool} (hj : w.jobs[t]? = some ⟨s, .told o⟩) (hp : w.pool.finish? t o = some pool) :
    Step w ({ w with pool }.moved t s (.finished o))
  | announce (e : Event) : Step w (w.post none e)

/-- The sends that targets are busy with. -/
def sending (w : Workshop) : Nat :=
  w.jobs.countP fun j => j.stage = .sending

/-- The jobs that hold a worker. -/
def holders (w : Workshop) : Nat :=
  w.jobs.countP fun j => j.stage.holds

/-- What a target was handed for a job. -/
def callsOf (w : Workshop) (ticket : Nat) : List Send :=
  (w.calls.filter fun c => c.1 == ticket).map (·.2)

/-- What was published about a job. -/
def eventsOf (w : Workshop) (ticket : Nat) : List Event :=
  (w.posted.filter fun p => p.1 == some ticket).map (·.2)

/-- A workshop with `n` workers in which the pool, the calls and what was published are as the stages of the jobs say. -/
structure Sound (n : Nat) (b : Bus) (w : Workshop) : Prop where
  workers : w.pool.maxWorkers = max 1 n
  permits : w.pool.available + w.holders = w.pool.maxWorkers
  listed : w.pool.submissions = w.jobs.map Job.submission
  accepted : w.submitted = w.jobs.map (·.send)
  handed : ∀ t, w.callsOf t = (w.jobs[t]?.bind Job.handed?).toList
  heard : ∀ t, w.eventsOf t = (w.jobs[t]?.bind Job.heard?).toList
  published : w.bus.published = b.published ++ w.posted.map (·.2)

end Workshop

/-! ## The pool and its list -/

namespace Pool

/-- A send that waits is given a free worker. -/
theorem start?_eq {p : Pool} {t : Nat} {s : Send} (hs : p.submissions[t]? = some ⟨s, .waiting⟩) :
    p.start? t =
      if 0 < p.available then
        some { p with available := p.available - 1, submissions := p.submissions.set t ⟨s, .sending⟩ }
      else none := by
  simp only [start?, hs, Option.bind_eq_bind, Option.bind_some, true_and]
  rfl

/-- Who is given a worker has waited for it. -/
theorem waiting_of_start? {p p' : Pool} {t : Nat} (h : p.start? t = some p') : ∃ s, p.submissions[t]? = some ⟨s, .waiting⟩ := by
  unfold start? at h
  obtain ⟨⟨s, phase⟩, hs, h⟩ := Option.bind_eq_some_iff.mp h
  split at h
  · next hwaiting =>
    obtain rfl : phase = .waiting := hwaiting.1
    exact ⟨s, hs⟩
  · cases h

/-- Who gives a worker back had one. -/
theorem sending_of_finish? {p p' : Pool} {t : Nat} {o : Ended} (h : p.finish? t o = some p') :
    ∃ s, p.submissions[t]? = some ⟨s, .sending⟩ := by
  unfold finish? at h
  obtain ⟨⟨s, phase⟩, hs, h⟩ := Option.bind_eq_some_iff.mp h
  split at h
  · next hsending =>
    obtain rfl : phase = .sending := hsending
    exact ⟨s, hs⟩
  · cases h

/-- A send that has ended gives its worker back. -/
theorem finish?_eq {p : Pool} {t : Nat} {s : Send} (hs : p.submissions[t]? = some ⟨s, .sending⟩) (o : Ended) :
    p.finish? t o =
      some { p with available := p.available + 1, submissions := p.submissions.set t ⟨s, .finished o⟩ } := by
  simp only [finish?, hs, Option.bind_eq_bind, Option.bind_some, if_true]
  rfl

end Pool

namespace Workshop

variable {n : Nat} {b : Bus} {w w' : Workshop}

theorem callsOf_append (w : Workshop) (t t' : Nat) (s : Send) :
    ({ w with calls := w.calls ++ [(t, s)] } : Workshop).callsOf t' = w.callsOf t' ++ if t' = t then [s] else [] := by
  by_cases ht : t' = t
  · simp [callsOf, ht]
  · simp [callsOf, ht, Ne.symm ht]

theorem callsOf_moved (w : Workshop) (t : Nat) (s : Send) (stage : JobStage) : (w.moved t s stage).callsOf = w.callsOf :=
  rfl

theorem eventsOf_moved (w : Workshop) (t : Nat) (s : Send) (stage : JobStage) : (w.moved t s stage).eventsOf = w.eventsOf :=
  rfl

theorem eventsOf_post (w : Workshop) (t : Option Nat) (e : Event) (t' : Nat) :
    (w.post t e).eventsOf t' = w.eventsOf t' ++ if some t' = t then [e] else [] := by
  by_cases ht : some t' = t
  · simp [eventsOf, post, ← ht]
  · simp [eventsOf, post, ht, Ne.symm ht]

section Moved

variable {t : Nat} {s : Send} {before after : JobStage}

/-- What one job adds to a list that is kept by ticket. -/
theorem added_moved {α : Type} {f : Job → Option α} {lists lists' : Nat → List α} {new : List α}
    (hj : w.jobs[t]? = some ⟨s, before⟩) (hl : ∀ t', lists t' = (w.jobs[t']?.bind f).toList)
    (hl' : ∀ t', lists' t' = lists t' ++ if t' = t then new else [])
    (hnew : (f ⟨s, before⟩).toList ++ new = (f ⟨s, after⟩).toList) (t' : Nat) :
    lists' t' = ((w.jobs.set t ⟨s, after⟩)[t']?.bind f).toList := by
  have hlt := (List.getElem?_eq_some_iff.mp hj).1
  rw [hl', hl]
  by_cases ht : t' = t
  · subst ht
    rw [hj, List.getElem?_set_self hlt, if_pos rfl]
    exact hnew
  · simp [ht, List.getElem?_set_ne (Ne.symm ht)]

/-- The workers that are held when a job gets to another stage. -/
theorem countP_holds_set (hj : w.jobs[t]? = some ⟨s, before⟩) (after : JobStage) :
    (w.jobs.set t ⟨s, after⟩).countP (fun j => j.stage.holds) + before.holds.toNat = w.holders + after.holds.toNat := by
  obtain ⟨hlt, hget⟩ := List.getElem?_eq_some_iff.mp hj
  have hle : before.holds.toNat ≤ w.holders := by
    cases hh : before.holds with
    | false => exact Nat.zero_le _
    | true => exact List.countP_pos_iff.mpr ⟨_, List.mem_of_getElem? hj, hh⟩
  simp only [holders, List.countP_set hlt, hget] at hle ⊢
  cases hb : before.holds <;> cases ha : after.holds <;> simp_all

/-- A workshop in which a job has got to another stage is sound if the pool knows it and everything that this adds is there. -/
theorem Sound.moved (h : w.Sound n b) (hj : w.jobs[t]? = some ⟨s, before⟩) (called : List Send) (told : List Event)
    (hjobs : w'.jobs = w.jobs.set t ⟨s, after⟩) (hsame : w'.submitted = w.submitted) (hmax : w'.pool.maxWorkers = w.pool.maxWorkers)
    (hfree : w'.pool.available + after.holds.toNat = w.pool.available + before.holds.toNat)
    (hlist : w'.pool.submissions = w.pool.submissions.set t ⟨s, after.phase⟩)
    (hcalls : ∀ t', w'.callsOf t' = w.callsOf t' ++ if t' = t then called else [])
    (hcalled : (Job.handed? ⟨s, before⟩).toList ++ called = (Job.handed? ⟨s, after⟩).toList)
    (hevents : ∀ t', w'.eventsOf t' = w.eventsOf t' ++ if t' = t then told else [])
    (htold : (Job.heard? ⟨s, before⟩).toList ++ told = (Job.heard? ⟨s, after⟩).toList)
    (hbus : w'.bus.published = b.published ++ w'.posted.map (·.2)) : w'.Sound n b where
  workers := hmax.trans h.workers
  permits := by
    have hheld := countP_holds_set hj after
    have hsum := h.permits
    rw [hmax, holders, hjobs]
    omega
  listed := by
    rw [hlist, h.listed, hjobs, List.map_set]
    rfl
  accepted := by
    have hs : (w.jobs.map (·.send))[t]? = some s := by rw [List.getElem?_map, hj]; rfl
    obtain ⟨hlt, hget⟩ := List.getElem?_eq_some_iff.mp hs
    rw [hsame, h.accepted, hjobs, List.map_set, ← hget, List.set_getElem_self]
  handed := by
    rw [hjobs]
    exact added_moved hj h.handed hcalls hcalled
  heard := by
    rw [hjobs]
    exact added_moved hj h.heard hevents htold
  published := hbus

/-- A job in the list of the pool. -/
theorem Sound.submission (h : w.Sound n b) (hj : w.jobs[t]? = some ⟨s, before⟩) :
    w.pool.submissions[t]? = some ⟨s, before.phase⟩ := by
  rw [h.listed, List.getElem?_map, hj]
  rfl

/-- The pool does not see the steps of a job that it gave a worker to. -/
theorem Sound.set_submission (h : w.Sound n b) (hj : w.jobs[t]? = some ⟨s, before⟩) (after : JobStage) (hp : after.phase = before.phase) :
    w.pool.submissions = w.pool.submissions.set t ⟨s, after.phase⟩ := by
  have hs := h.submission hj
  obtain ⟨hlt, hget⟩ := List.getElem?_eq_some_iff.mp hs
  rw [hp, ← hget, List.set_getElem_self]

end Moved

/-! ## Steps -/

/-- An opened workshop is sound. -/
theorem sound_opened (n : Nat) (b : Bus) : (opened n b).Sound n b where
  workers := rfl
  permits := rfl
  listed := rfl
  accepted := rfl
  handed _ := rfl
  heard _ := rfl
  published := (List.append_nil _).symm

/-- A submission keeps a workshop sound. -/
theorem Sound.submit (h : w.Sound n b) (s : Send) : (w.submit s).Sound n b := by
  have hjob {α : Type} {f : Job → Option α} (hf : f ⟨s, .waiting⟩ = none) (t : Nat) :
      (w.submit s).jobs[t]?.bind f = w.jobs[t]?.bind f := by
    simp only [Workshop.submit, List.getElem?_append]
    split
    · rfl
    · next hlt =>
      rw [List.getElem?_eq_none (Nat.not_lt.mp hlt)]
      cases t - w.jobs.length <;> simp [hf]
  refine ⟨h.workers, ?_, ?_, ?_, ?_, ?_, h.published⟩
  · have hsum := h.permits
    simpa [Workshop.submit, Pool.submit, holders, JobStage.holds] using hsum
  · simp [Workshop.submit, Pool.submit, h.listed, Job.submission, JobStage.phase]
  · simp [Workshop.submit, h.accepted]
  · intro t
    rw [hjob rfl]
    exact h.handed t
  · intro t
    rw [hjob rfl]
    exact h.heard t

/-- A step keeps a workshop sound. -/
theorem Sound.step (h : w.Sound n b) (hstep : w.Step w') : w'.Sound n b := by
  -- what most jobs add to what targets were handed, and to what was published
  have hnone {α : Type} (lists : Nat → List α) (t t' : Nat) : lists t' = lists t' ++ if t' = t then [] else [] := by simp
  cases hstep with
  | submit s => exact h.submit s
  | @grant t s pool hj hp =>
    rw [Pool.start?_eq (h.submission hj)] at hp
    split at hp
    · next hfree =>
      obtain rfl := Option.some.inj hp
      refine h.moved hj [] [] rfl rfl rfl ?_ rfl (hnone w.callsOf t) rfl (hnone w.eventsOf t) rfl h.published
      simp only [JobStage.holds, Bool.toNat_true, Bool.toNat_false, Workshop.moved]
      omega
    · cases hp
  | @call t s hj =>
    have hpool := h.set_submission hj .sending rfl
    refine h.moved hj [s] [] rfl rfl rfl rfl hpool ?_ rfl (hnone w.eventsOf t) rfl h.published
    intro t'
    rw [callsOf_moved, callsOf_append]
  | @ret t s o hj =>
    have hpool := h.set_submission hj (.returned o) rfl
    exact h.moved hj [] [] rfl rfl rfl rfl hpool (hnone w.callsOf t) rfl (hnone w.eventsOf t) rfl h.published
  | @tell t s o hj =>
    have hpool := h.set_submission hj (.told o) rfl
    refine h.moved hj [] [s.event o] rfl rfl rfl rfl hpool (hnone w.callsOf t) rfl ?_ rfl ?_
    · intro t'
      rw [eventsOf_moved, eventsOf_post]
      simp only [Option.some.injEq]
    · simp [Workshop.moved, post, Bus.publish, h.published]
  | @finish t s o pool hj hp =>
    rw [Pool.finish?_eq (h.submission hj)] at hp
    obtain rfl := Option.some.inj hp
    exact h.moved hj [] [] rfl rfl rfl rfl rfl (hnone w.callsOf t) rfl (hnone w.eventsOf t) rfl h.published
  | announce e =>
    refine ⟨h.workers, h.permits, h.listed, h.accepted, h.handed, ?_, ?_⟩
    · intro t
      rw [eventsOf_post, if_neg (Option.some_ne_none t), List.append_nil]
      exact h.heard t
    · simp [post, Bus.publish, h.published]

/-- A run of steps keeps a workshop sound. -/
theorem Sound.runs (h : w.Sound n b) (hruns : ReflTransGen Step w w') : w'.Sound n b := by
  induction hruns with
  | refl => exact h
  | tail _ hstep ih => exact ih.step hstep

/-! ## What sound workshops have in common -/

/-- The workers that are held are those of the jobs that hold one, and no more are free than there are. -/
theorem Sound.busy (h : w.Sound n b) : w.pool.busy = w.holders ∧ w.pool.available ≤ w.pool.maxWorkers := by
  have hsum := h.permits
  unfold Pool.busy
  omega

/-- Targets are busy with as many sends as there are workers at most. -/
theorem Sound.sending_le (h : w.Sound n b) : w.sending ≤ max 1 n := by
  have hle : w.sending ≤ w.holders := by
    refine List.countP_mono_left ?_
    intro j _ hj
    rw [of_decide_eq_true hj]
    rfl
  have hsum := h.permits
  rw [← h.workers]
  omega

/-- When every job is finished no worker is held. -/
theorem Sound.idle (h : w.Sound n b) (hall : ∀ j ∈ w.jobs, ∃ o, j.stage = .finished o) : w.pool.busy = 0 := by
  rw [h.busy.1, holders, List.countP_eq_zero]
  intro j hj
  obtain ⟨o, ho⟩ := hall j hj
  rw [ho]
  exact Bool.false_ne_true

end Workshop

namespace Send

/-- What the subscribers are told of a send is how it ended, for its identity. -/
theorem event_outcome (s : Send) (o : Ended) : (s.event o).isOutcome = true ∧ (s.event o).identity = s.registration.identity := by
  unfold event
  cases o.failure? <;> exact ⟨rfl, rfl⟩

end Send

namespace Workshop

variable {n : Nat} {b : Bus} {w w' : Workshop}

/-- The record of one job: its target was handed it once at most, and the subscribers were told once at most; when it is finished each has
happened, with the send that was submitted, the pool has it as finished and it holds no worker. What the subscribers were told is how the
send ended, for its identity. -/
structure Record (w : Workshop) (ticket : Nat) (s : Send) (stage : JobStage) : Prop where
  calls_le : (w.callsOf ticket).length ≤ 1
  events_le : (w.eventsOf ticket).length ≤ 1
  called : ∀ s' ∈ w.callsOf ticket, s' = s
  finished : ∀ o, stage = .finished o →
    w.callsOf ticket = [s] ∧ w.eventsOf ticket = [s.event o] ∧ w.pool.submissions[ticket]? = some ⟨s, .finished o⟩ ∧
      stage.holds = false ∧ (s.event o).isOutcome = true ∧ (s.event o).identity = s.registration.identity

/-- Whatever was submitted is a job, and has its record. -/
theorem Sound.record (h : w.Sound n b) {t : Nat} {s : Send} (hs : w.submitted[t]? = some s) :
    ∃ stage, w.jobs[t]? = some ⟨s, stage⟩ ∧ w.Record t s stage := by
  rw [h.accepted, List.getElem?_map, Option.map_eq_some_iff] at hs
  obtain ⟨⟨s, stage⟩, hj, rfl⟩ := hs
  have hcalls := h.handed t
  have hevents := h.heard t
  rw [hj, Option.bind_some] at hcalls hevents
  refine ⟨stage, hj, ?_, ?_, ?_, ?_⟩
  · rw [hcalls]
    exact Option.length_toList_le
  · rw [hevents]
    exact Option.length_toList_le
  · intro s' hs'
    rw [hcalls, Option.mem_toList] at hs'
    cases stage <;> simp_all [Job.handed?]
  · rintro o rfl
    exact ⟨hcalls, hevents, h.submission hj, rfl, s.event_outcome o⟩

/-! ## Every job can be finished -/

/-- How many steps are left to all jobs. -/
def left (w : Workshop) : Nat :=
  w.jobs.foldr (fun j n => j.stage.left + n) 0

/-- The steps that are left when a job gets to another stage. -/
theorem foldr_left_set {jobs : List Job} {t : Nat} {j : Job} (hj : jobs[t]? = some j) (j' : Job) :
    (jobs.set t j').foldr (fun j n => j.stage.left + n) 0 + j.stage.left =
      jobs.foldr (fun j n => j.stage.left + n) 0 + j'.stage.left := by
  induction jobs generalizing t with
  | nil => simp at hj
  | cons first rest ih =>
    cases t with
    | zero =>
      obtain rfl : first = j := by simpa using hj
      simp only [List.set_cons_zero, List.foldr_cons]
      omega
    | succ t =>
      have hrest := ih (t := t) (by simpa using hj)
      simp only [List.set_cons_succ, List.foldr_cons]
      omega

/-- As long as a job is not finished, one of the jobs can take a step. -/
theorem Sound.exists_step (h : w.Sound n b) {j : Job} (hj : j ∈ w.jobs) (hleft : 0 < j.stage.left) :
    ∃ w', w.Step w' ∧ w'.left < w.left ∧ w'.submitted = w.submitted := by
  have key {t : Nat} {s : Send} {before after : JobStage} {w' : Workshop} (hj : w.jobs[t]? = some ⟨s, before⟩)
      (hjobs : w'.jobs = w.jobs.set t ⟨s, after⟩) (hlt : after.left < before.left) : w'.left < w.left := by
    have hsum := foldr_left_set hj ⟨s, after⟩
    rw [left, left, hjobs]
    simp only at hsum
    omega
  by_cases hheld : ∃ k ∈ w.jobs, k.stage.holds = true
  · -- whoever holds a worker can go on
    obtain ⟨⟨s, stage⟩, hk, hholds⟩ := hheld
    obtain ⟨t, ht⟩ := List.getElem?_of_mem hk
    cases stage with
    | waiting => exact absurd hholds Bool.false_ne_true
    | granted => exact ⟨_, .call ht, key ht rfl (by decide), rfl⟩
    | sending => exact ⟨_, .ret ⟨0, .sent⟩ ht, key ht rfl (by simp [JobStage.left]), rfl⟩
    | returned o => exact ⟨_, .tell ht, key ht rfl (by simp [JobStage.left]), rfl⟩
    | told o =>
      have hp := Pool.finish?_eq (h.submission ht) o
      exact ⟨_, .finish ht hp, key ht rfl (by simp [JobStage.left]), rfl⟩
    | finished o => exact absurd hholds Bool.false_ne_true
  · -- nobody holds one, so the job waits and there is a free one
    obtain ⟨s, stage⟩ := j
    obtain ⟨t, ht⟩ := List.getElem?_of_mem hj
    have hnone : w.holders = 0 := by
      rw [holders, List.countP_eq_zero]
      exact fun k hk hk' => hheld ⟨k, hk, hk'⟩
    have hfree : 0 < w.pool.available := by
      have hsum := h.permits
      have hmax := h.workers
      omega
    have hstage : stage = .waiting := by
      have hno : ¬stage.holds = true := fun hs => hheld ⟨_, hj, hs⟩
      cases stage <;> simp_all [JobStage.holds, JobStage.left]
    subst hstage
    have hp := Pool.start?_eq (h.submission ht)
    rw [if_pos hfree] at hp
    exact ⟨_, .grant ht hp, key ht rfl (by decide), rfl⟩

/-- Whatever has happened, all jobs can be finished, and then every worker is back. -/
theorem Sound.can_finish (h : w.Sound n b) :
    ∃ w', ReflTransGen Step w w' ∧ (∀ j ∈ w'.jobs, ∃ o, j.stage = .finished o) ∧ w'.submitted = w.submitted ∧ w'.pool.busy = 0 := by
  induction hl : w.left using Nat.strongRecOn generalizing w with
  | _ l ih =>
    by_cases hopen : ∃ j ∈ w.jobs, 0 < j.stage.left
    · obtain ⟨j, hj, hleft⟩ := hopen
      obtain ⟨w₁, hstep, hless, hsame⟩ := h.exists_step hj hleft
      obtain ⟨w', hruns, hall, hsame', hidle⟩ := ih _ (hl ▸ hless) (h.step hstep) rfl
      exact ⟨w', .head hstep hruns, hall, hsame'.trans hsame, hidle⟩
    · have hall : ∀ j ∈ w.jobs, ∃ o, j.stage = .finished o := by
        intro j hj
        have hzero : ¬0 < j.stage.left := fun hlt => hopen ⟨j, hj, hlt⟩
        cases hs : j.stage <;> simp_all [JobStage.left]
      exact ⟨w, .refl, hall, rfl, h.idle hall⟩

end Workshop

/-! ## Tickets -/

/-- What has become of a ticket. -/
inductive Ticket
  | held
  /-- Somebody waits for the send, for a while where there is a limit. -/
  | waiting (limit : Option Span)
  | answered (result : Except DispatchError Unit)
  /-- It was given up, perhaps while somebody waited. -/
  | dropped

/-- A workshop and its tickets. -/
structure Office where
  workshop : Workshop
  tickets : Nat → Ticket := fun _ => .held

namespace Office

/-- What happens next, in the workshop or to a ticket. -/
inductive Step (x : Office) : Office → Prop
  | work {w} (h : x.workshop.Step w) : Step x { x with workshop := w }
  | wait {t} (limit : Option Span) (ht : x.tickets t = .held) : Step x { x with tickets := Function.update x.tickets t (.waiting limit) }
  /-- The one who waits gets the result of the send, or has waited long enough. -/
  | answer {t limit result} (ht : x.tickets t = .waiting limit) (hr : x.workshop.pool.await? limit t = some result) :
    Step x { x with tickets := Function.update x.tickets t (.answered result) }
  | drop (t : Nat) : Step x { x with tickets := Function.update x.tickets t .dropped }

/-- What happens to tickets leaves the workshop as it is, and what happens in the workshop does not need them. -/
theorem Step.work_or_same {x y : Office} (h : x.Step y) :
    y.workshop = x.workshop ∨ x.workshop.Step y.workshop ∧ ∀ tickets, Step ⟨x.workshop, tickets⟩ ⟨y.workshop, tickets⟩ := by
  cases h with
  | work h => exact .inr ⟨h, fun tickets => .work h⟩
  | _ => exact .inl rfl

/-- The workshop of a run has made a run of its own. -/
theorem runs_workshop {x y : Office} (h : ReflTransGen Step x y) : ReflTransGen Workshop.Step x.workshop y.workshop := by
  induction h with
  | refl => exact .refl
  | tail _ hstep ih =>
    rcases hstep.work_or_same with hsame | ⟨hwork, _⟩
    · rw [hsame]
      exact ih
    · exact ih.tail hwork

/-- Whatever happens in a workshop with `n` workers and to its tickets: targets are busy with `n` sends at most, or with one; the workers
that are held are those of the jobs that hold one; every send has its record; and when every job is finished no worker is held. What
happens to tickets changes nothing of it. -/
theorem workers_are_bounded_and_given_back (n : Nat) (b : Bus) {x : Office} (h : ReflTransGen Step ⟨Workshop.opened n b, fun _ => .held⟩ x) :
    x.workshop.sending ≤ max 1 n ∧
      (x.workshop.pool.busy = x.workshop.holders ∧ x.workshop.pool.available ≤ x.workshop.pool.maxWorkers) ∧
      (∀ t s, x.workshop.submitted[t]? = some s → ∃ stage, x.workshop.jobs[t]? = some ⟨s, stage⟩ ∧ x.workshop.Record t s stage) ∧
      x.workshop.bus.published = b.published ++ x.workshop.posted.map (·.2) ∧
      ((∀ j ∈ x.workshop.jobs, ∃ o, j.stage = .finished o) → x.workshop.pool.busy = 0) ∧
      ∀ y, x.Step y →
        y.workshop = x.workshop ∨ x.workshop.Step y.workshop ∧ ∀ tickets, Step ⟨x.workshop, tickets⟩ ⟨y.workshop, tickets⟩ := by
  have hs : x.workshop.Sound n b := (Workshop.sound_opened n b).runs (runs_workshop h)
  refine ⟨hs.sending_le, hs.busy, ?_, hs.published, hs.idle, ?_⟩
  · intro t s hsub
    exact hs.record hsub
  · intro y hy
    exact hy.work_or_same

/-- One worker, two sends: the first breaks off while its ticket has been given up, and the worker is back for the second. -/
theorem panicking_send_gives_its_worker_back :
    ∃ x, ReflTransGen Step ⟨Workshop.opened 0 ⟨1, []⟩, fun _ => .held⟩ x ∧ x.workshop.sending ≤ 1 ∧ x.workshop.pool.busy = 1 ∧
      (x.workshop.callsOf 0).length = 1 ∧ x.workshop.eventsOf 0 = [.sendFailed "a" (Outcome.aborted 7 "oops").full] := by
  let e : Registration := ⟨"a", 0, 0, ⟨{}, none, .log⟩⟩
  let s : Send := ⟨e, {}⟩
  have hruns : ReflTransGen Step ⟨Workshop.opened 0 ⟨1, []⟩, fun _ => .held⟩ _ :=
    .head (.work (.submit s)) <| .head (.drop 0) <| .head (.work (.submit s)) <| .head (.work (.grant (t := 0) rfl rfl)) <|
    .head (.work (.call (t := 0) rfl)) <| .head (.work (.ret (t := 0) ⟨7, .panicked "oops"⟩ rfl)) <| .head (.work (.tell (t := 0) rfl)) <|
    .head (.work (.finish (t := 0) rfl rfl)) <| .single (.work (.grant (t := 1) rfl rfl))
  obtain ⟨hsending, _, hrecord, _⟩ := workers_are_bounded_and_given_back 0 ⟨1, []⟩ hruns
  obtain ⟨stage, hj, hr⟩ := hrecord 0 s rfl
  obtain rfl : JobStage.finished ⟨7, .panicked "oops"⟩ = stage := by
    injection hj with hj
    injection hj
  obtain ⟨hcalls, hevents, _⟩ := hr.finished _ rfl
  exact ⟨_, hruns, hsending, rfl, congrArg List.length hcalls, hevents⟩

end Office

/-! ## The steps of the hub -/

namespace Submission

/-- A send of the pool as a job between two steps of the pool. -/
def job (s : Submission) : Job :=
  ⟨s.send, match s.phase with
    | .waiting => .waiting
    | .sending => .granted
    | .finished o => .finished o⟩

end Submission

namespace Workshop

/-- A workshop that stands as a hub does. -/
structure Shows (w : Workshop) (h : Hub) : Prop where
  pool : w.pool = h.pool
  bus : w.bus = h.bus
  jobs : w.jobs = h.pool.submissions.map Submission.job

variable {w : Workshop} {h h' : Hub}

/-- Handing a send to the pool and telling of the activation are steps of the workshop. -/
theorem Shows.activate (hw : w.Shows h) (now : Instant) (e : Registration) (m : Message) :
    ∃ w', ReflTransGen Step w w' ∧ w'.Shows (h.activate now e m).2 := by
  refine ⟨_, .head (.submit ⟨e, m⟩) (.single (.announce (.activated e.identity (h.registry.stamp e.place now).1))), ?_, ?_, ?_⟩
  · simp [post, submit, Hub.activate, Hub.publish, hw.pool]
  · simp [post, submit, Hub.activate, Hub.publish, hw.bus]
  · simp [post, submit, Hub.activate, Hub.publish, Pool.submit, hw.jobs, Submission.job]

/-- A job of a workshop that stands as a hub does. -/
theorem Shows.job (hw : w.Shows h) {t : Nat} {s : Submission} (hs : h.pool.submissions[t]? = some s) : w.jobs[t]? = some s.job := by
  rw [hw.jobs, List.getElem?_map, hs]
  rfl

/-- A worker that takes on a send is a step of the workshop. -/
theorem Shows.start? (hw : w.Shows h) {t : Nat} (hs : h.start? t = some h') : ∃ w', ReflTransGen Step w w' ∧ w'.Shows h' := by
  obtain ⟨pool, hpool, rfl⟩ := Option.map_eq_some_iff.mp hs
  obtain ⟨s, hwaiting⟩ := Pool.waiting_of_start? hpool
  have hj : w.jobs[t]? = some ⟨s, .waiting⟩ := hw.job hwaiting
  have hgrant : w.Step ({ w with pool }.moved t s .granted) := .grant hj (by rw [hw.pool, hpool])
  refine ⟨_, .single hgrant, rfl, hw.bus, ?_⟩
  rw [Pool.start?_eq hwaiting] at hpool
  split at hpool
  · obtain rfl := Option.some.inj hpool
    simp [moved, hw.jobs, List.map_set, Submission.job]
  · cases hpool

/-- A delivery from its beginning to its end is a run of the workshop: the target is handed the message, is done with it, the subscribers
are told, and the worker is given back. -/
theorem Shows.finish? (hw : w.Shows h) {network : Network} {turn : Turn} {t : Nat} (hf : h.finish? network turn t = some h') :
    ∃ w', ReflTransGen Step w w' ∧ w'.Shows h' ∧ ∀ s, h.pool.submissions[t]? = some s → w'.calls = w.calls ++ [(t, s.send)] := by
  unfold Hub.finish? at hf
  obtain ⟨_, hsub, hf⟩ := Option.bind_eq_some_iff.mp hf
  obtain ⟨pool, hpool, hf⟩ := Option.bind_eq_some_iff.mp hf
  obtain ⟨s, hsending⟩ := Pool.sending_of_finish? hpool
  obtain rfl := Option.some.inj (hsub.symm.trans hsending)
  obtain rfl := Option.some.inj hf
  generalize hended : (⟨turn.task, (s.registration.target.deliver network turn.now h.inbox s.message).outcome⟩ : Ended) = o at hpool
  have hlt : t < w.jobs.length := (List.getElem?_eq_some_iff.mp (hw.job hsending)).1
  let w₁ := { w with calls := w.calls ++ [(t, s)] }.moved t s .sending
  let w₂ := w₁.moved t s (.returned o)
  let w₃ := (w₂.post (some t) (s.event o)).moved t s (.told o)
  have h₁ : w.Step w₁ := .call (hw.job hsending)
  have h₂ : w₁.Step w₂ := .ret o (by simp [w₁, moved, hlt])
  have h₃ : w₂.Step w₃ := .tell (by simp [w₂, w₁, moved, hlt])
  have h₄ : w₃.Step ({ w₃ with pool }.moved t s (.finished o)) :=
    .finish (by simp [w₃, w₂, w₁, moved, post, hlt]) ((congrArg (·.finish? t o) hw.pool).trans hpool)
  refine ⟨_, .head h₁ (.head h₂ (.head h₃ (.single h₄))), ⟨rfl, ?_, ?_⟩, ?_⟩
  · simp [w₃, w₂, w₁, moved, post, Hub.publish, hw.bus]
  · rw [Pool.finish?_eq hsending] at hpool
    obtain rfl := Option.some.inj hpool
    simp [w₃, w₂, w₁, moved, post, Hub.publish, hw.jobs, List.map_set, Submission.job]
  · intro s' hs'
    rw [hsending] at hs'
    rw [← Option.some.inj hs']
    rfl

/-- Taking steps of the pool until none is left is a run of the workshop. -/
theorem Shows.settle (hw : w.Shows h) (network : Network) (turns : Nat → Turn) (canEnd : Send → Bool) :
    ∃ w', ReflTransGen Step w w' ∧ w'.Shows (h.settle network turns canEnd) := by
  have key (k : Nat) : ∀ {w h}, Shows w h → ∃ w', ReflTransGen Step w w' ∧ w'.Shows (Hub.advances network turns canEnd k h) := by
    induction k with
    | zero => exact fun {w h} hw => ⟨w, .refl, hw⟩
    | succ k ih =>
      intro w h hw
      unfold Hub.advances
      split
      · next h₁ hnext =>
        have hone : ∃ w₁, ReflTransGen Step w w₁ ∧ w₁.Shows h₁ := by
          rcases Option.or_eq_some_iff.mp hnext with hs | ⟨_, hf⟩
          · obtain ⟨t, _, hs⟩ := Option.bind_eq_some_iff.mp hs
            exact hw.start? hs
          · obtain ⟨t, _, hf⟩ := Option.bind_eq_some_iff.mp hf
            obtain ⟨w₁, hruns, hshows, _⟩ := hw.finish? hf
            exact ⟨w₁, hruns, hshows⟩
        obtain ⟨w₁, hruns, hshows⟩ := hone
        obtain ⟨w', hruns', hshows'⟩ := ih hshows
        exact ⟨w', hruns.trans hruns', hshows'⟩
      · exact ⟨w, .refl, hw⟩
  exact key _ hw

end Workshop

end Herald
