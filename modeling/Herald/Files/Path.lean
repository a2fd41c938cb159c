import Herald.Text.Table

/-!
# Paths

A path is a text of names with slashes between them. The name of the file is the last name; its stem ends before the last point, but
a point at the start of a name belongs to the stem.
-/

namespace Herald.Path

/-- The names of a path, empty ones and single points included. -/
def parts (path : String) : List String :=
  (Text.partsAt '/' path.toList).map String.ofList

/-- Whether a part of a path leaves it where it is. -/
def isIdle (part : String) : Bool :=
  part == "" || part == "."

/-- Whether a path starts at the root. -/
def isAbsolute (path : String) : Bool :=
  path.toList.head? == some '/'

/-- The path without the idle parts at its end, and the last of the others. -/
def splitLast? (path : String) : Option (List String × String) :=
  match (parts path).reverse.dropWhile isIdle with
  | [] => none
  | last :: before => some (before.reverse, last)

/-- The stem of a name. -/
def stem (name : String) : String :=
  match name.toList.reverse.dropWhile (· != '.') with
  | [] => name
  | [_] => name
  | _ :: before => String.ofList before.reverse

/-- The path with another ending in the place of the one its last name has. A path that ends in no name stays; neither does a name whose
stem is a point get an ending, because with the point before that it is the place above. -/
def withExtension (path extension : String) : String :=
  match splitLast? path with
  | none => path
  | some (before, last) =>
    if last = ".." then path
    else if stem last = "." && path.endsWith last then "/".intercalate (before ++ [".."])
    else "/".intercalate (before ++ [stem last ++ "." ++ extension])

/-- The parts of the directory that a path is in, if the path names one. -/
def parent? (path : String) : Option (List String) :=
  match splitLast? path with
  | none => none
  | some (before, _) => if before.all (· == "") then none else some before

/-- Puts a name below a directory. A name that starts at the root stands for itself. -/
def join (dir name : String) : String :=
  if isAbsolute name then name
  else if dir.isEmpty then name
  else if dir.toList.getLast? = some '/' then dir ++ name
  else dir ++ "/" ++ name

end Herald.Path
