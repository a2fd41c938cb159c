import Herald.Text.Ascii

/-!
# Slugs

The identity a target gets from its name: the runs of basic letters and digits, in small letters, joined by single
underscores. The scanner walks the name once; `Slug.runs` says the same by cutting the name into runs.
-/

namespace Herald.Text

namespace Slug

/-- Scans the rest of a name. `started` says that the slug has a character already, `gap` that a separator was passed since. -/
def scan (started gap : Bool) : List Char → List Char
  | [] => []
  | c :: rest =>
    if isAlphanumeric c then
      (if started && gap then ['_'] else []) ++ lowerChar c :: scan true false rest
    else
      scan started true rest

/-- The maximal runs of letters and digits, in small letters. `run` is the run being read, backwards. -/
def runsFrom (run : List Char) : List Char → List (List Char)
  | [] => if run.isEmpty then [] else [run.reverse]
  | c :: rest =>
    if isAlphanumeric c then runsFrom (lowerChar c :: run) rest
    else if run.isEmpty then runsFrom [] rest
    else run.reverse :: runsFrom [] rest

/-- The maximal runs of letters and digits of a name, in small letters. -/
def runs (cs : List Char) : List (List Char) :=
  runsFrom [] cs

end Slug

/-- The slug of a name. -/
def slug (name : String) : String :=
  String.ofList (Slug.scan false false name.toList)

end Herald.Text
