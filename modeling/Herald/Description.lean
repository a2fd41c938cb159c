import Herald.DeviceClass
import Herald.Feature

/-!
# Descriptions

What a target says about itself. A target is shown under its name, without one under the name of its class, and without a class
under its identity.
-/

namespace Herald

/-- The static data of a target. -/
structure Description where
  name : Option String := none
  deviceClass : Option DeviceClass := none
  features : FeatureSet := {}
  deriving DecidableEq, Repr, Inhabited

namespace Description

/-- The class of a target: its own choice, else the one it is described with. -/
def resolveClass (d : Description) (override : Option DeviceClass) : Option DeviceClass :=
  override.or d.deviceClass

/-- The name a target is shown under. -/
def displayName (identity : String) (d : Description) (override : Option DeviceClass) : String :=
  match d.name with
  | some name => name
  | none =>
    match d.resolveClass override with
    | some c => c.displayName
    | none => identity

end Description

end Herald
