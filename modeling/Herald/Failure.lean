/-!
# Failures

Why an operation of a target or a backend failed: the outermost reason and the causes under it, each of which explains the one
before.
-/

namespace Herald

/-- A reason and the causes under it. -/
structure Failure where
  reason : String
  causes : List String := []
  deriving DecidableEq, Repr, Inhabited

namespace Failure

/-- All reasons, the outermost first. -/
def chain (f : Failure) : List String :=
  f.reason :: f.causes

/-- All reasons in one line. -/
def full (f : Failure) : String :=
  ": ".intercalate f.chain

/-- The reason and, in a block of their own, its causes, which are numbered when there are several. -/
def report (f : Failure) : String :=
  match f.causes with
  | [] => f.reason
  | [cause] => f.reason ++ "\n\nCaused by:\n    " ++ cause
  | causes =>
    f.reason ++ "\n\nCaused by:" ++
      String.join (causes.zipIdx.map fun (cause, i) => "\n    " ++ toString i ++ ": " ++ cause)

/-- The failure as a cause of another. -/
def context (reason : String) (f : Failure) : Failure :=
  ⟨reason, f.chain⟩

end Failure

end Herald
