import Herald.Text.Percent
import Herald.Text.Table

/-!
# Paths

The path of an address is a list of names. While it is read, the name of one dot is left out and that of two dots takes the name before
it away, so that no path goes above its root. The letter of a drive stays where it is.
-/

namespace Herald.Url.Path

/-- Whether a name is that of the place itself. -/
def isHere (name : List Char) : Bool :=
  [".", "%2e"].contains (String.ofList (name.map Text.lowerChar))

/-- Whether a name is that of the place above. -/
def isAbove (name : List Char) : Bool :=
  ["..", ".%2e", "%2e.", "%2e%2e"].contains (String.ofList (name.map Text.lowerChar))

/-- Whether a name is the letter of a drive. -/
def isDrive : List Char → Bool
  | [c, sign] => Text.isAlphanumeric c && !Text.isDigit c && (sign == ':' || sign == '|')
  | _ => false

/-- Whether a path may hold a character. -/
def isKept (c : Char) : Bool :=
  0x20 < c.toNat && c.toNat < 0x7F && !"\"#<>?`\x7b\x7d".toList.contains c

/-- Takes the last name of a path away, given from the last to the first; the letter of a drive is not taken away. -/
def up : List (List Char) → List (List Char)
  | [] => []
  | name :: names => if isDrive name then name :: names else names

/-- A name as it is put behind others, where the letter of a drive that comes first among files is followed by a colon. -/
def entry (isFile : Bool) (before : List (List Char)) (name : List Char) : List Char :=
  match name with
  | [c, _] => if isFile && before.isEmpty && isDrive name then [c, ':'] else name
  | _ => name

/-- Follows names from a place: `before` are the names up to it, from the last to the first. -/
def follow (isFile : Bool) (before : List (List Char)) : List (List Char) → List (List Char)
  | [] => before.reverse
  | [name] =>
    if isAbove name then ([] :: up before).reverse
    else if isHere name then ([] :: before).reverse
    else (entry isFile before name :: before).reverse
  | name :: names =>
    if isAbove name then follow isFile (up before) names
    else if isHere name then follow isFile before names
    else follow isFile (entry isFile before name :: before) names

/-- The names of a path, which stands behind its first slash. With `takesBackslash` a backslash counts as one. -/
def ofChars (isFile takesBackslash : Bool) (cs : List Char) : List (List Char) :=
  let cs := if takesBackslash then cs.map fun c => if c = '\\' then '/' else c else cs
  follow isFile [] ((Text.partsAt '/' cs).map (Text.Percent.escape isKept))

/-- The path as text. -/
def render (names : List (List Char)) : List Char :=
  '/' :: Text.joinWith '/' names

end Herald.Url.Path
