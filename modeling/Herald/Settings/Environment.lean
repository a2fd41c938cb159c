import Herald.Number.Written
import Herald.Settings.Layers
import Herald.Text.Space
import Herald.Toml.Text

/-!
# Settings in the environment

A variable whose name starts with a mark, in letters of either case, is a setting; in the rest of its name two underscores stand
between the keys. Its value is written in a small grammar in which a text needs no quotes; what does not fit the grammar to its end is
a text as a whole.
-/

namespace Herald.Environment

/-- Whether a character is a blank of the grammar. -/
def isBlank (c : Char) : Bool :=
  c == ' ' || c == '\t' || c == '\n' || c == '\r' || c == '\x0c'

/-- What follows the blanks. -/
def skipBlanks (cs : List Char) : List Char :=
  cs.dropWhile isBlank

/-- Whether a text without quotes ends before a character. -/
def isSeparator (c : Char) : Bool :=
  c == ',' || c == '\x7b' || c == '\x7d' || c == '[' || c == ']'

/-- The value of a text without quotes: a number, if it is one. -/
def bare (text : String) : Value :=
  match (if text.contains '.' then Written.decimal? text else none), Written.count? text, Written.whole? text with
  | some x, _, _ => .float x
  | none, some n, _ => .unsigned n
  | none, none, some n => .signed n
  | none, none, none => .text text

/-- Reads a key with its equals sign. -/
def readKey (cs : List Char) : Option (String × List Char) := do
  let (key, rest) ← match skipBlanks cs with
    | '"' :: rest => Toml.readBasic rest.length rest
    | cs => if cs.head?.any Toml.isKeyChar then some (cs.takeWhile Toml.isKeyChar, cs.dropWhile Toml.isKeyChar) else none
  match skipBlanks rest with
  | '=' :: rest => return (String.ofList key, rest)
  | _ => none

mutual

/-- Reads a value with the blanks around it. -/
def readValue : Nat → List Char → Option (Value × List Char)
  | 0, _ => none
  | fuel + 1, cs => do
    let (value, rest) ← match skipBlanks cs with
      | 't' :: 'r' :: 'u' :: 'e' :: rest => some (.bool true, rest)
      | 'f' :: 'a' :: 'l' :: 's' :: 'e' :: rest => some (.bool false, rest)
      | '\x7b' :: rest => (readFields fuel rest).map fun (fields, rest) => (.ofFields fields, rest)
      | '[' :: rest => (readItems fuel rest).map fun (items, rest) => (.list items, rest)
      | '"' :: rest => (Toml.readBasic rest.length rest).map fun (s, rest) => (.text (String.ofList s), rest)
      | '\'' :: c :: '\'' :: rest => some (.char c, rest)
      | '\'' :: _ => none
      | cs =>
        let text := cs.takeWhile fun c => !isSeparator c
        some (bare (Text.trim (String.ofList text)), cs.drop text.length)
    return (value, skipBlanks rest)

/-- Reads the items of a list up to its closing bracket. A comma may follow the last. -/
def readItems : Nat → List Char → Option (List Value × List Char)
  | 0, _ => none
  | _, ']' :: rest => some ([], rest)
  | fuel + 1, cs => do
    let (item, rest) ← readValue fuel cs
    match rest with
    | ',' :: rest =>
      let (items, rest) ← readItems fuel rest
      return (item :: items, rest)
    | ']' :: rest => return ([item], rest)
    | _ => none

/-- Reads the fields of an object up to its closing brace. A comma may follow the last. -/
def readFields : Nat → List Char → Option (List (String × Value) × List Char)
  | 0, _ => none
  | _, '\x7d' :: rest => some ([], rest)
  | fuel + 1, cs => do
    let (key, rest) ← readKey cs
    let (value, rest) ← readValue fuel rest
    match rest with
    | ',' :: rest =>
      let (fields, rest) ← readFields fuel rest
      return ((key, value) :: fields, rest)
    | '\x7d' :: rest => return ([(key, value)], rest)
    | _ => none

end

/-- The value that a variable holds. -/
def value (text : String) : Value :=
  let cs := text.toList
  match readValue (2 * cs.length + 2) cs with
  | some (value, []) => value
  | _ => .text text

/-- The mark at the start of the names of settings. -/
def mark : List Char := "notifyhub_".toList

/-- Splits a name at every two underscores and at every point. -/
def splitKeys : List Char → List (List Char)
  | [] => [[]]
  | '_' :: '_' :: rest => [] :: splitKeys rest
  | c :: rest =>
    if c = '.' then [] :: splitKeys rest
    else
      match splitKeys rest with
      | [] => [[c]]
      | key :: keys => (c :: key) :: keys

/-- The keys that the name of a variable stands for, if it is the name of a setting. No key may be empty. -/
def keys? (name : String) : Option (List String) :=
  let cs := (Text.trim name).toList.map Text.lowerChar
  if mark.isPrefixOf cs then
    let keys := splitKeys (Text.trim (String.ofList (cs.drop mark.length))).toList
    if keys.any (·.isEmpty) then none else some (keys.map String.ofList)
  else none

/-- A value under keys that lead to it. -/
def nested (keys : List String) (v : Value) : Value :=
  keys.foldr (fun key v => .object [(key, v)]) v

/-- The layer of an environment, whose variables are taken in the order given. -/
def layer (environment : List (String × String)) : Value :=
  Value.layered (environment.filterMap fun (name, text) => (keys? name).map fun keys => nested keys (value text))

end Herald.Environment
