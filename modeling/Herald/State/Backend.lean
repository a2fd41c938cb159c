import Herald.Failure
import Herald.Files
import Herald.State.Snapshot

/-!
# Backends

Where snapshots are kept: in a file, or in memory. A file that cannot be read as a document counts as none, so that it costs only the
activations in it; a document of another version is refused. A file is saved by writing its text beside it and renaming that over it,
so a save that fails leaves what is loaded as it was.
-/

namespace Herald

/-- Where snapshots are kept. -/
inductive Backend
  | file (path : String)
  /-- What was saved, and whether the backend refuses to load and to save. -/
  | memory (saved : Option Snapshot) (refusesLoad refusesSave : Bool)
  deriving Repr, Inhabited

namespace StateFile

/-- The path that the text is written to first. -/
def scratch (path : String) : String :=
  Path.withExtension path "json.tmp"

/-- A failure of the file that has a reason of its own. -/
def fault (reason : String) (f : FileFault) : Failure :=
  ⟨reason, [f.message]⟩

/-- Loads the snapshot of a file. -/
def load (files : Files) (path : String) : Except Failure Snapshot :=
  match files.read path with
  | .error .notFound => .ok .empty
  | .error f => .error (fault ("reading state file " ++ path) f)
  | .ok text =>
    match Snapshot.ofText? text with
    | none => .ok .empty
    | some s =>
      if s.version = Snapshot.currentVersion then .ok s
      else .error ⟨"unsupported state file version " ++ toString s.version ++ " in " ++ path, []⟩

/-- A step of a save that the disk refuses. -/
inductive Refusal
  /-- The making of the directories breaks off, so many before the last. -/
  | directory (left : Nat) (message : String)
  /-- The write breaks off after a part of the text, or before there is a file for it. -/
  | write (written : Option String) (message : String)
  | rename (message : String)
  deriving DecidableEq, Repr

/-- Makes the directory of the file. -/
def saveDirectory (refusal : Option Refusal) (files : Files) (path : String) : Files × Except Failure Unit :=
  match Path.parent? path with
  | none => (files, .ok ())
  | some parts =>
    match refusal with
    | some (.directory left message) => ((files.makeDirs (parts.reverse.drop left)).1, .error ⟨message, []⟩)
    | _ =>
      match files.makeDirs parts.reverse with
      | (files, .ok ()) => (files, .ok ())
      | (files, .error f) => (files, .error ⟨f.message, []⟩)

/-- Writes the text beside the file. -/
def saveText (refusal : Option Refusal) (files : Files) (path : String) (s : Snapshot) : Files × Except Failure Unit :=
  let reason := "writing " ++ scratch path
  match refusal with
  | some (.write none message) => (files, .error ⟨reason, [message]⟩)
  | some (.write (some written) message) =>
    match files.write (scratch path) written with
    | .error f => (files, .error (fault reason f))
    | .ok files => (files, .error ⟨reason, [message]⟩)
  | _ =>
    match files.write (scratch path) s.toText with
    | .error f => (files, .error (fault reason f))
    | .ok files => (files, .ok ())

/-- Renames the text over the file. -/
def saveRename (refusal : Option Refusal) (files : Files) (path : String) : Except Failure Files :=
  let reason := "replacing state file " ++ path
  match refusal with
  | some (.rename message) => .error ⟨reason, [message]⟩
  | _ =>
    match files.rename (scratch path) path with
    | .ok files => .ok files
    | .error f => .error (fault reason f)

/-- Saves a snapshot to a file, on a disk that may refuse a step. -/
def save (refusal : Option Refusal) (files : Files) (path : String) (s : Snapshot) : Files × Except Failure Unit :=
  match saveDirectory refusal files path with
  | (files, .error failure) => (files, .error failure)
  | (files, .ok ()) =>
    match saveText refusal files path s with
    | (files, .error failure) => (files, .error failure)
    | (files, .ok ()) =>
      match saveRename refusal files path with
      | .error failure => (files, .error failure)
      | .ok files => (files, .ok ())

end StateFile

namespace Backend

/-- Memory in which nothing was saved. -/
def emptyMemory : Backend := .memory none false false

/-- Loads the last saved snapshot. Where nothing was saved it is empty. -/
def load (files : Files) : Backend → Except Failure Snapshot
  | .file path => StateFile.load files path
  | .memory saved refusesLoad _ => if refusesLoad then .error ⟨"load refused", []⟩ else .ok (saved.getD .empty)

/-- Saves a snapshot. -/
def save (files : Files) (s : Snapshot) : Backend → Backend × Files × Except Failure Unit
  | .file path =>
    let (files, result) := StateFile.save none files path s
    (.file path, files, result)
  | .memory saved refusesLoad refusesSave =>
    if refusesSave then (.memory saved refusesLoad refusesSave, files, .error ⟨"save refused", []⟩)
    else (.memory (some s) refusesLoad refusesSave, files, .ok ())

end Backend

end Herald
