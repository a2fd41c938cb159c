import Herald.Json.Printer
import Herald.Text.Quoted

/-!
# Faults

Why a value does not fit the type that it is read as, and where in the value. A fault is a cause with the path to the place; the
wording is one function for each of the two sources that values come from, a document or the layers of the settings.
-/

namespace Herald

/-- Where a value comes from. A document rejects a list that is longer than the record it stands for; in the settings the rest of
such a list is ignored. -/
inductive Source
  | document
  | settings
  deriving DecidableEq, Repr

/-- Why a value does not fit. -/
inductive Cause
  /-- A value of another type. -/
  | wrongType (found : Value) (expected : String)
  /-- A value of the right type outside the range. -/
  | wrongValue (found : Value) (expected : String)
  /-- A list of the wrong length. -/
  | wrongLength (length : Nat) (expected : String)
  /-- A field that has to be present. -/
  | missing (field : String)
  /-- A field that is not known, and those that are. -/
  | unknownField (field : String) (known : List String)
  /-- A name that is none of the known ones. -/
  | unknownVariant (name : String) (known : List String)
  /-- A reason in words. -/
  | custom (reason : String)
  deriving Repr, Inhabited

/-- A cause and the keys that lead to it from the outermost value. -/
structure Fault where
  cause : Cause
  path : List String
  deriving Repr, Inhabited

namespace Fault

/-- Names between backticks, as a phrase: a name, one of two, or one of a list. -/
def alternatives (names : List String) : String :=
  match names with
  | [] => "there are no variants"
  | [a] => "`" ++ a ++ "`"
  | [a, b] => "`" ++ a ++ "` or `" ++ b ++ "`"
  | names => "one of " ++ ", ".intercalate (names.map fun n => "`" ++ n ++ "`")

/-- A value cited in a fault of a document. -/
def cited : Value → String
  | .null => "null"
  | .bool b => "boolean `" ++ (if b then "true" else "false") ++ "`"
  | .unsigned n => "integer `" ++ toString n ++ "`"
  | .signed n => "integer `" ++ toString n ++ "`"
  | .float x => "floating point `" ++ x.render Json.floatLayout ++ "`"
  | .char c => "character `" ++ String.singleton c ++ "`"
  | .text s => "string " ++ Text.quoted s
  | .list _ => "sequence"
  | .object _ => "map"

/-- A value cited in a fault of the settings: the kind of a number is told, and a number with a fraction is written out without an
exponent. -/
def citedSetting : Value → String
  | .null => "option"
  | .bool b => "bool " ++ (if b then "true" else "false")
  | .unsigned n => "unsigned int `" ++ toString n ++ "`"
  | .signed n => "signed int `" ++ toString n ++ "`"
  | .float x => "float `" ++ x.render ⟨fun _ => true, false⟩ ++ "`"
  | .char c => "char " ++ Text.quotedChar c
  | .text s => "string " ++ Text.quoted s
  | .list _ => "sequence"
  | .object _ => "map"

/-- The wording of a cause in a document. -/
def documentMessage : Cause → String
  | .wrongType found expected => "invalid type: " ++ cited found ++ ", expected " ++ expected
  | .wrongValue found expected => "invalid value: " ++ cited found ++ ", expected " ++ expected
  | .wrongLength length expected => "invalid length " ++ toString length ++ ", expected " ++ expected
  | .missing field => "missing field `" ++ field ++ "`"
  | .unknownField field known => "unknown field `" ++ field ++ "`, expected " ++ alternatives known
  | .unknownVariant name known => "unknown variant `" ++ name ++ "`, expected " ++ alternatives known
  | .custom reason => reason

/-- The wording of a cause in the settings. -/
def settingsMessage : Cause → String
  | .wrongType found expected => "invalid type: found " ++ citedSetting found ++ ", expected " ++ expected
  | .wrongValue found expected => "invalid value " ++ citedSetting found ++ ", expected " ++ expected
  | .wrongLength length expected => "invalid length " ++ toString length ++ ", expected " ++ expected
  | .missing field => "missing field `" ++ field ++ "`"
  | .unknownField field known =>
    "unknown field: found `" ++ field ++ "`, expected `" ++ alternatives known ++ "`"
  | .unknownVariant name known =>
    "unknown variant: found `" ++ name ++ "`, expected `" ++ alternatives known ++ "`"
  | .custom reason => reason

/-- The wording of a fault. -/
def message (source : Source) (f : Fault) : String :=
  match source with
  | .document => documentMessage f.cause
  | .settings => settingsMessage f.cause

/-- The keys of the path, joined by points. -/
def pathText (f : Fault) : String :=
  ".".intercalate f.path

end Fault

end Herald
