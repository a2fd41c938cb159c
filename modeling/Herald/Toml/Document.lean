import Herald.Toml.Number
import Herald.Toml.Tree

/-!
# Reading a settings file

A file is a run of lines: a blank one, a comment, a key with its value, or the header of a section. What is not well formed as a whole
has no value. `Value.ofToml?` reads a file.
-/

namespace Herald.Toml

/-- Neither lists and tables in one another nor the keys of one path reach this number. -/
def depthLimit : Nat := 80

/-- What follows blanks, line breaks and comments. -/
def skipFiller (inComment : Bool) : List Char → List Char
  | '\n' :: rest => skipFiller false rest
  | '\r' :: '\n' :: rest => skipFiller false rest
  | c :: rest =>
    if inComment then if isPlain c then skipFiller true rest else c :: rest
    else if isBlank c then skipFiller false rest
    else if c == '#' then skipFiller true rest
    else c :: rest
  | [] => []

/-- Reads a path of keys and splits off the last of them. -/
def readPath (cs : List Char) : Option ((List String × String) × List Char) := do
  let (keys, rest) ← readKeys cs.length cs
  if keys.length < depthLimit then return ((keys.dropLast, ← keys.getLast?), rest) else none

mutual

/-- Reads a value. -/
def readValue : Nat → Nat → List Char → Option (Value × List Char)
  | 0, _, _ => none
  | fuel + 1, depth, cs =>
    match cs with
    | '[' :: rest =>
      if depth + 1 < depthLimit then (readItems fuel (depth + 1) rest).map fun (items, rest) => (.list items, rest) else none
    | '\x7b' :: rest =>
      if depth + 1 < depthLimit then
        match skipBlanks rest with
        | '\x7d' :: rest => some (.object [], rest)
        | rest => (readPairs fuel (depth + 1) [] rest).map fun (fields, rest) => (.object (toValues fields), rest)
      else none
    | 't' :: 'r' :: 'u' :: 'e' :: rest => some (.bool true, rest)
    | 'f' :: 'a' :: 'l' :: 's' :: 'e' :: rest => some (.bool false, rest)
    | '"' :: _ => (readText cs).map fun (s, rest) => (.text s, rest)
    | '\'' :: _ => (readText cs).map fun (s, rest) => (.text s, rest)
    | _ => readScalar cs

/-- Reads the items of a list up to its closing bracket. -/
def readItems : Nat → Nat → List Char → Option (List Value × List Char)
  | 0, _, _ => none
  | fuel + 1, depth, cs =>
    match skipFiller false cs with
    | ']' :: rest => some ([], rest)
    | cs => do
      let (item, rest) ← readValue fuel depth cs
      match skipFiller false rest with
      | ']' :: rest => return ([item], rest)
      | ',' :: rest =>
        let (items, rest) ← readItems fuel depth rest
        return (item :: items, rest)
      | _ => none

/-- Reads the fields of a table within a line up to its closing brace, at least one. -/
def readPairs : Nat → Nat → Fields → List Char → Option (Fields × List Char)
  | 0, _, _, _ => none
  | fuel + 1, depth, fields, cs => do
    let ((path, key), rest) ← readPath cs
    match rest with
    | '=' :: rest =>
      let (value, rest) ← readValue fuel depth (skipBlanks rest)
      let fields ← Fields.setKey path key value .header fields
      match skipBlanks rest with
      | '\x7d' :: rest => return (fields, rest)
      | ',' :: rest => readPairs fuel depth fields rest
      | _ => none
    | _ => none

end

/-- Reads what may follow on a line, and the end of the line. -/
def readLineEnd (cs : List Char) : Option (List Char) :=
  let rest := match skipBlanks cs with
    | '#' :: rest => rest.dropWhile isPlain
    | rest => rest
  if rest.isEmpty then some [] else lineBreak? rest

/-- What was read so far, and the section to which keys belong. -/
structure Draft where
  fields : Fields
  path : List String

/-- Reads one line. -/
def readLine (draft : Draft) (cs : List Char) : Option (Draft × List Char) :=
  match skipBlanks cs with
  | '[' :: '[' :: rest => do
    let ((path, key), rest) ← readPath rest
    match rest with
    | ']' :: ']' :: rest => return (⟨← draft.fields.openItem path key, path ++ [key]⟩, ← readLineEnd rest)
    | _ => none
  | '[' :: rest => do
    let ((path, key), rest) ← readPath rest
    match rest with
    | ']' :: rest => return (⟨← draft.fields.openTable path key, path ++ [key]⟩, ← readLineEnd rest)
    | _ => none
  | cs =>
    match readLineEnd cs with
    | some rest => some (draft, rest)
    | none => do
      let ((path, key), rest) ← readPath cs
      match rest with
      | '=' :: rest =>
        let (value, rest) ← readValue (2 * rest.length + 2) 0 (skipBlanks rest)
        return ({ draft with fields := ← draft.fields.setIn draft.path path key value }, ← readLineEnd rest)
      | _ => none

/-- Reads lines to the end. Every line but the last takes a character at least. -/
def readFile : Nat → Draft → List Char → Option Draft
  | _, draft, [] => some draft
  | 0, _, _ => none
  | fuel + 1, draft, cs => do
    let (draft, rest) ← readLine draft cs
    readFile fuel draft rest

/-- The mark that may open a file. -/
def byteOrderMark : Char := '\uFEFF'

end Herald.Toml

namespace Herald.Value

/-- The settings that a file holds. -/
def ofToml? (text : String) : Option Value := do
  let cs := match text.toList with
    | c :: rest => if c = Toml.byteOrderMark then rest else c :: rest
    | [] => []
  let draft ← Toml.readFile cs.length ⟨[], []⟩ cs
  return .object (Toml.toValues draft.fields)

end Herald.Value
