/-!
# Faults of an address
-/

namespace Herald.Url

/-- Why a text is no address. -/
inductive Fault
  /-- It does not name a scheme. -/
  | relative
  | emptyHost
  /-- The name of the host is none that a server can have. -/
  | badName
  /-- The name of the host holds a character that it may not hold. -/
  | badCharacter
  /-- What stands behind the host is no number below 65536. -/
  | badNumber
  | badAddress4
  | badAddress6
  deriving DecidableEq, Repr

/-- The wording of a fault. -/
def Fault.message : Fault → String
  | .relative => "relative URL without a base"
  | .emptyHost => "empty host"
  | .badName => "invalid international domain name"
  | .badCharacter => "invalid domain character"
  | .badNumber => "invalid port number"
  | .badAddress4 => "invalid IPv4 address"
  | .badAddress6 => "invalid IPv6 address"

end Herald.Url
