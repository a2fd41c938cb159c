import Herald.Failure
import Herald.Time.Span

/-!
# Errors of a dispatch

A dispatch is rejected, before anything has changed, when its target is unknown or its arguments are invalid. After that only the
send can fail, or fail to finish within the deadline.
-/

namespace Herald

/-- Why a dispatch did not succeed. -/
inductive DispatchError
  | targetNotFound (identity : String)
  | validation (reason : String)
  | sendFailure (identity : String) (failure : Failure)
  | timeout (identity : String) (limit : Span)
  deriving DecidableEq, Repr, Inhabited

namespace DispatchError

/-- The wording of the error. -/
def message : DispatchError → String
  | .targetNotFound identity => "no notify target registered as '" ++ identity ++ "'"
  | .validation reason => "invalid send_message call: " ++ reason
  | .sendFailure identity failure => "notify target '" ++ identity ++ "' failed to send: " ++ failure.reason
  | .timeout identity limit => "notify target '" ++ identity ++ "' did not confirm within " ++ limit.display

/-- Whether the error was raised before anything had changed. -/
def isRejection : DispatchError → Bool
  | .targetNotFound _ => true
  | .validation _ => true
  | .sendFailure _ _ => false
  | .timeout _ _ => false

/-- The failure of the target that the error reports. -/
def source? : DispatchError → Option Failure
  | .sendFailure _ failure => some failure
  | _ => none

end DispatchError

end Herald
