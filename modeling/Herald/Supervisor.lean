/-!
# Background tasks

The supervisor keeps the background tasks of the application under their names. At the end it waits for all of them and tells which
broke off, in the order in which they were spawned.
-/

namespace Herald

/-- A background task and whether it broke off. -/
structure Task where
  name : String
  panicked : Bool := false
  deriving DecidableEq, Repr, Inhabited

/-- The tasks that were spawned, the first spawned first. -/
structure Supervisor where
  tasks : List Task := []
  deriving DecidableEq, Repr, Inhabited

namespace Supervisor

/-- Spawns a task. -/
def spawn (s : Supervisor) (t : Task) : Supervisor :=
  { s with tasks := s.tasks ++ [t] }

/-- How many tasks there are. -/
def size (s : Supervisor) : Nat :=
  s.tasks.length

/-- Waits for all tasks: the names of those that broke off, and the supervisor without tasks. -/
def shutdown (s : Supervisor) : List String × Supervisor :=
  ((s.tasks.filter (·.panicked)).map (·.name), {})

end Supervisor

end Herald
