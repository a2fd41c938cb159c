import Herald.Json.Reader
import Herald.Json.Printer
import Herald.Keyed
import Herald.Time.Text

/-!
# Snapshots

The document that keeps the last activation of every target. It has a version, so that a document of another version is told from one
that cannot be read. Fields of other names are passed over, whatever they hold; a field given twice makes the document unreadable,
a target given twice counts as it is given last.
-/

namespace Herald

/-- The last activation of every target, with the version of the document. -/
structure Snapshot where
  version : Nat
  targets : Keyed Instant
  deriving DecidableEq, Repr

namespace Snapshot

/-- The version that is written, and the only one that is accepted. -/
def currentVersion : Nat := 1

/-- A snapshot of the current version. -/
def ofTargets (targets : Keyed Instant) : Snapshot :=
  ⟨currentVersion, targets⟩

/-- The snapshot without targets. -/
def empty : Snapshot := ofTargets []

instance : Inhabited Snapshot := ⟨empty⟩

/-- The record of one target as a value. -/
def entryValue (t : Instant) : Value :=
  .object [("last_notified", .text t.render)]

/-- The snapshot as a value. -/
def toValue (s : Snapshot) : Value :=
  .object [("version", .unsigned s.version), ("targets", .object (s.targets.mapValues entryValue))]

/-- The text of the document. -/
def toText (s : Snapshot) : String :=
  s.toValue.indented

open Json (Draft)

/-- The draft under a name among some fields, or nothing if it is given twice or a name cannot be read. -/
def field? (name : String) : List (Option String × Draft) → Option (Option Draft)
  | [] => some none
  | (none, _) :: _ => none
  | (some key, d) :: rest =>
    match field? name rest with
    | none => none
    | some found => if key = name then (if found.isSome then none else some (some d)) else some found

/-- Reads the version, a whole number of 32 binary digits. -/
def readVersion? : Draft → Option Nat
  | .scalar (some (.unsigned n)) => if n < Nat.pow 2 32 then some n else none
  | _ => none

/-- Reads an instant. -/
def readInstant? : Draft → Option Instant
  | .scalar (some (.text s)) => Instant.ofText? s
  | _ => none

/-- Reads the record of one target, an object or a list of its only field. -/
def readRecord? : Draft → Option Instant
  | .object fields => (field? "last_notified" fields).join.bind readInstant?
  | .list [d] => readInstant? d
  | _ => none

/-- Reads the records of the targets. -/
def readRecords? : List (Option String × Draft) → Option (List (String × Instant))
  | [] => some []
  | (key, d) :: rest => do return (← key, ← readRecord? d) :: (← readRecords? rest)

/-- Reads the targets. -/
def readTargets? : Draft → Option (Keyed Instant)
  | .object fields => (readRecords? fields).map Keyed.ofList
  | _ => none

/-- Reads a snapshot, an object or a list of its fields. The targets may be left out. -/
def ofDraft? : Draft → Option Snapshot
  | .object fields => do
    let version ← readVersion? (← (← field? "version" fields))
    match ← field? "targets" fields with
    | none => return ⟨version, []⟩
    | some d => return ⟨version, ← readTargets? d⟩
  | .list [version] => do return ⟨← readVersion? version, []⟩
  | .list [version, targets] => do return ⟨← readVersion? version, ← readTargets? targets⟩
  | _ => none

/-- Reads the text of a document. -/
def ofText? (text : String) : Option Snapshot :=
  (Draft.ofText? text).bind ofDraft?

end Snapshot

end Herald
