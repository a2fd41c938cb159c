import Herald.DispatchError
import Herald.Event
import Herald.Registry

/-!
# The pool of workers

Every send that is submitted gets a ticket, waits until a worker is free, holds the worker while its target is busy with it, and is then
finished for good. How a send ended depends on its target alone, but for the number of the task that it ended in; who holds the ticket may
wait for it, wait for a while, or not wait at all.
-/

namespace Herald

/-- A message on its way to the target of a registration. -/
structure Send where
  registration : Registration
  message : Message

/-- How far a send has come. -/
inductive Phase
  | waiting
  | sending
  | finished (ended : Ended)
  deriving DecidableEq, Repr, Inhabited

/-- A send in the pool. -/
structure Submission where
  send : Send
  phase : Phase := .waiting

/-- How many workers there are and how many are free, and everything that was submitted, by ticket. -/
structure Pool where
  maxWorkers : Nat
  available : Nat
  submissions : List Submission := []

namespace Send

/-- What the one who waits for the send is told. -/
def result (s : Send) (e : Ended) : Except DispatchError Unit :=
  match e.failure? with
  | none => .ok ()
  | some failure => .error (.sendFailure s.registration.identity failure)

/-- What the subscribers are told. -/
def event (s : Send) (e : Ended) : Event :=
  match e.failure? with
  | none => .sendSucceeded s.registration.identity
  | some failure => .sendFailed s.registration.identity failure.full

end Send

namespace Pool

/-- The largest number of workers that a pool can be given. -/
def limit : Nat := Nat.pow 2 61 - 1

/-- A pool without sends. It has one worker at least. -/
def ofWorkers (n : Nat) : Pool where
  maxWorkers := max 1 n
  available := max 1 n

/-- How many workers are held. -/
def busy (p : Pool) : Nat :=
  p.maxWorkers - p.available

/-- Submits a send and gives its ticket. -/
def submit (p : Pool) (s : Send) : Nat × Pool :=
  (p.submissions.length, { p with submissions := p.submissions ++ [{ send := s }] })

/-- Gives a free worker to a send that waits. -/
def start? (p : Pool) (ticket : Nat) : Option Pool := do
  let s ← p.submissions[ticket]?
  if s.phase = .waiting ∧ 0 < p.available then
    return { p with available := p.available - 1, submissions := p.submissions.set ticket { s with phase := .sending } }
  else none

/-- Takes the worker back from a send that has ended. -/
def finish? (p : Pool) (ticket : Nat) (e : Ended) : Option Pool := do
  let s ← p.submissions[ticket]?
  if s.phase = .sending then
    return { p with available := p.available + 1, submissions := p.submissions.set ticket { s with phase := .finished e } }
  else none

/-- How a send has ended, once it has. -/
def result? (p : Pool) (ticket : Nat) : Option (Except DispatchError Unit) := do
  let s ← p.submissions[ticket]?
  match s.phase with
  | .finished e => return s.send.result e
  | _ => none

/-- Waits for a send. Where it has not ended by the limit that is the answer; without a limit there is no answer then. -/
def await? (p : Pool) (limit : Option Span) (ticket : Nat) : Option (Except DispatchError Unit) :=
  match p.result? ticket with
  | some result => some result
  | none => do
    let s ← p.submissions[ticket]?
    return .error (.timeout s.send.registration.identity (← limit))

/-- The send that has waited longest. -/
def nextWaiting? (p : Pool) : Option Nat :=
  p.submissions.findIdx? fun s => s.phase == .waiting

/-- The first send whose target is busy with it and can end it. -/
def nextSending? (p : Pool) (canEnd : Send → Bool) : Option Nat :=
  p.submissions.findIdx? fun s => s.phase == .sending && canEnd s.send

end Pool

end Herald
