/-!
# Log records

What is written to the log of the application: a level, a line, and named texts beside it.
-/

namespace Herald

/-- How much a record matters. -/
inductive Level
  | debug
  | info
  | warn
  deriving DecidableEq, Repr, Inhabited

/-- The name of a level. -/
def Level.name : Level → String
  | .debug => "DEBUG"
  | .info => "INFO"
  | .warn => "WARN"

/-- A record of the log. -/
structure LogRecord where
  level : Level
  message : String
  fields : List (String × String) := []
  deriving DecidableEq, Repr, Inhabited

end Herald
