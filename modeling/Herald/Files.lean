import Herald.Files.Path

/-!
# Files

The files and directories that the application sees. A path is walked from the root, or from the working directory if it does not
start with a slash; every name on the way has to be a directory. Nothing but the operations here changes the files. An operation that
fails leaves them as they were, but for the making of several directories, which may break off after some of them.
-/

namespace Herald

/-- What is stored under a path. -/
inductive Entry
  | dir
  | text (content : String)
  /-- A file whose content is no text. -/
  | binary
  deriving DecidableEq, Repr, Inhabited

/-- Why an operation on files fails. -/
inductive FileFault
  | notFound
  | exists
  | notADirectory
  | isADirectory
  | notText
  | longName
  /-- A path with the character that ends one. -/
  | badName
  /-- The disk refuses, with a message of its own. -/
  | disk (message : String)
  deriving DecidableEq, Repr, Inhabited

/-- The wording of a fault. -/
def FileFault.message : FileFault → String
  | .notFound => "No such file or directory (os error 2)"
  | .exists => "File exists (os error 17)"
  | .notADirectory => "Not a directory (os error 20)"
  | .isADirectory => "Is a directory (os error 21)"
  | .notText => "stream did not contain valid UTF-8"
  | .longName => "File name too long (os error 36)"
  | .badName => "file name contained an unexpected NUL byte"
  | .disk message => message

/-- The entries below the root, each under the names that lead to it, and the working directory. -/
structure Files where
  entries : List (List String × Entry) := []
  workdir : List String := []
  deriving DecidableEq, Repr, Inhabited

namespace Files

/-- The entry under some names. -/
def get? (f : Files) (names : List String) : Option Entry :=
  if names.isEmpty then some .dir else (f.entries.find? fun p => p.1 == names).map (·.2)

/-- Stores an entry under some names. -/
def put (f : Files) (names : List String) (e : Entry) : Files :=
  { f with entries := (names, e) :: f.entries.filter fun p => p.1 != names }

/-- Removes an entry with everything below it. -/
def erase (f : Files) (names : List String) : Files :=
  { f with entries := f.entries.filter fun p => !names.isPrefixOf p.1 }

/-- How many bytes a name may have. -/
def longestName : Nat := 255

/-- How many bytes a path may have, the one that ends it included. -/
def longestPath : Nat := 4096

/-- One step of a walk: the names that a part leads to from a directory. -/
def enter (f : Files) (at' : List String) (part : String) : Except FileFault (List String) :=
  match f.get? at' with
  | none => .error .notFound
  | some .dir =>
    if Path.isIdle part then .ok at'
    else if part = ".." then .ok at'.dropLast
    else if longestName < part.utf8ByteSize then .error .longName
    else .ok (at' ++ [part])
  | some _ => .error .notADirectory

/-- The names that a path leads to. The last of them may be missing. -/
def resolve (f : Files) (path : String) : Except FileFault (List String) :=
  if path.toList.contains '\x00' then .error .badName
  else if path.isEmpty then .error .notFound
  else if longestPath ≤ path.utf8ByteSize then .error .longName
  else (Path.parts path).foldlM f.enter (if Path.isAbsolute path then [] else f.workdir)

/-- Whether there is something under a path. -/
def contains (f : Files) (path : String) : Bool :=
  match f.resolve path with
  | .ok names => (f.get? names).isSome
  | .error _ => false

/-- Reads a text. -/
def read (f : Files) (path : String) : Except FileFault String := do
  match f.get? (← f.resolve path) with
  | none => .error .notFound
  | some .dir => .error .isADirectory
  | some .binary => .error .notText
  | some (.text content) => .ok content

/-- Writes a text into a file, which is made if it is missing. -/
def write (f : Files) (path content : String) : Except FileFault Files := do
  let names ← f.resolve path
  match f.get? names with
  | some .dir => .error .isADirectory
  | _ => .ok (f.put names (.text content))

/-- Whether there is a directory under a path. -/
def isDir (f : Files) (path : String) : Bool :=
  match f.resolve path with
  | .ok names => f.get? names == some .dir
  | .error _ => false

/-- Makes a directory where there is nothing yet. -/
def makeDir (f : Files) (path : String) : Except FileFault Files := do
  let names ← f.resolve path
  if (f.get? names).isSome then throw .exists else return f.put names .dir

/-- Makes a directory, given by the parts of its path from the last to the first, and those it is in. What is a directory already may
stay. -/
def makeDirs (f : Files) : List String → Files × Except FileFault Unit
  | [] => (f, .ok ())
  | part :: before =>
    if Path.isIdle part then f.makeDirs before
    else
      let path := "/".intercalate (part :: before).reverse
      let make (f : Files) : Files × Except FileFault Unit :=
        match f.makeDir path with
        | .ok f => (f, .ok ())
        | .error e => (f, if f.isDir path then .ok () else .error e)
      match f.makeDir path with
      | .error .notFound =>
        match f.makeDirs before with
        | (f, .ok ()) => make f
        | failed => failed
      | _ => make f

/-- Moves a file to another path, in the place of the file that is there. -/
def rename (f : Files) (source target : String) : Except FileFault Files := do
  let names ← f.resolve source
  let place ← f.resolve target
  match f.get? names, f.get? place with
  | none, _ => .error .notFound
  | some _, some .dir => .error .isADirectory
  | some e, _ =>
    if target.toList.getLast? = some '/' then .error .notADirectory
    else .ok ((f.erase names).put place e)

/-- Removes what is under a path and tells whether there was anything. -/
def remove (f : Files) (path : String) : Bool × Files :=
  match f.resolve path with
  | .ok names => if (f.get? names).isSome then (true, f.erase names) else (false, f)
  | .error _ => (false, f)

/-- The text of an entry below a directory. -/
def relative? (dir : List String) (entry : List String × Entry) : Option String :=
  if dir.isPrefixOf entry.1 && dir.length < entry.1.length then
    some ("/".intercalate (entry.1.drop dir.length) ++ (if entry.2 = .dir then "/" else ""))
  else none

/-- Everything below a directory, in rising order. Directories end in a slash. -/
def listing (f : Files) (dir : List String) : List String :=
  (f.entries.filterMap (relative? dir)).mergeSort fun a b => !(b < a)

end Files

end Herald
