import Herald.Value

/-!
# The tables of a settings file while it is read

A table may be opened by its own header, be implied by the header of one inside it, or come from a key with points. The three differ
in how they may grow: an implied table can still get a header, a table with a header takes no more keys from outside its section, and
what a key with points made is no table for a header.
-/

namespace Herald.Toml

/-- How a table came about. -/
inductive TableForm
  | header
  | implied
  | dotted
  deriving DecidableEq, Repr

/-- What stands under a key: a value, a table, or a list of tables of which the last one grows. -/
inductive Node
  | leaf (value : Value)
  | table (form : TableForm) (fields : List (String × Node))
  | tables (items : List (List (String × Node)))
  deriving Inhabited

/-- The contents of a table. -/
abbrev Fields := List (String × Node)

namespace Fields

/-- Changes the table at the end of a path. Missing tables on the way are made; a value on the way is an error, and so is a table
with a header when the path belongs to a key with points. -/
def change (byKey : Bool) (f : TableForm → Fields → Option Fields) : List String → TableForm → Fields → Option Fields
  | [], form, fields => f form fields
  | key :: path, _, fields =>
    match Keyed.get? key fields with
    | none => do
      let form := if byKey then TableForm.dotted else TableForm.implied
      return Keyed.insert key (.table form (← change byKey f path form [])) fields
    | some (.leaf _) => none
    | some (.table form inner) =>
      if byKey && form == .header then none
      else do return Keyed.insert key (.table form (← change byKey f path form inner)) fields
    | some (.tables items) => do
      let last ← change byKey f path .header (← items.getLast?)
      return Keyed.insert key (.tables (items.dropLast ++ [last])) fields

/-- Sets a key with points in a table. The key must be new, and the tables that it leads through its own. -/
def setKey (path : List String) (key : String) (value : Value) : TableForm → Fields → Option Fields :=
  change true (fun form fields =>
    if (form == .dotted) == path.isEmpty || (Keyed.get? key fields).isSome then none
    else some (Keyed.insert key (.leaf value) fields)) path

/-- Opens a table by its header. -/
def openTable (path : List String) (key : String) : Fields → Option Fields :=
  change false (fun _ fields =>
    match Keyed.get? key fields with
    | none => some (Keyed.insert key (.table .header []) fields)
    | some (.table .implied inner) => some (Keyed.insert key (.table .header inner) fields)
    | some _ => none) path .header

/-- Opens the next table of a list of tables by its header. -/
def openItem (path : List String) (key : String) : Fields → Option Fields :=
  change false (fun _ fields =>
    match Keyed.get? key fields with
    | none => some (Keyed.insert key (.tables [[]]) fields)
    | some (.tables items) => some (Keyed.insert key (.tables (items ++ [[]])) fields)
    | some _ => none) path .header

/-- Sets a key in the section that a header opened. -/
def setIn (home path : List String) (key : String) (value : Value) : Fields → Option Fields :=
  change false (setKey path key value) home .header

end Fields

mutual

/-- The value of what stands under a key. -/
def Node.toValue : Node → Value
  | .leaf value => value
  | .table _ fields => .object (toValues fields)
  | .tables items => .list (toObjects items)

/-- The values of a table. -/
def toValues : List (String × Node) → List (String × Value)
  | [] => []
  | (key, node) :: rest => (key, node.toValue) :: toValues rest

/-- The values of a list of tables. -/
def toObjects : List (List (String × Node)) → List Value
  | [] => []
  | fields :: rest => .object (toValues fields) :: toObjects rest

end

end Herald.Toml
