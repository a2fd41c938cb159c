import Herald.Program
import Std.Time.DateTime.Timestamp

/-!
# The command

Copies what the program may read from the disk into its files, runs it, prints what it says, and copies the file of the activations
back. There is no connection to the network here.
-/

namespace Herald.Main

/-- The variables of the environment. -/
def environment : IO (List (String × String)) := do
  try
    let text ← IO.FS.readFile "/proc/self/environ"
    return (text.splitOn "\x00").filterMap fun line =>
      match line.splitOn "=" with
      | name :: value :: values => some (name, "=".intercalate (value :: values))
      | _ => none
  catch _ => return []

/-- How many processors there are. -/
def processors : IO Nat := do
  try
    let text ← IO.FS.readFile "/proc/cpuinfo"
    return ((text.splitOn "\n").filter fun line => line.startsWith "processor").length
  catch _ => return 1

/-- The time. -/
def now : IO Instant := do
  let t ← Std.Time.Timestamp.now
  return (Instant.of? t.val.second.val t.val.nano.val.toNat).getD Instant.epoch

/-- Whether there is a directory under a path. -/
def isDirectory (path : String) : IO Bool := do
  ((← IO.currentDir) / path).isDir

/-- Copies what is under a path, and the directories on the way, into the files. -/
def copyIn (files : Files) (path : String) : IO Files := do
  let parts := (Path.parent? path).getD []
  let mut found := files
  for count in [1:parts.length + 1] do
    let dir := "/".intercalate (parts.take count)
    if (← isDirectory dir) then
      found := (found.makeDirs (parts.take count).reverse).1
  let entry ← try
      if (← isDirectory path) then pure (some Entry.dir)
      else pure (some (Entry.text (← IO.FS.readFile path)))
    catch _ => pure none
  match entry, found.resolve path with
  | some entry, .ok names => return found.put names entry
  | _, _ => return found

/-- Copies a file back when its text has changed. -/
def copyOut (before after : Files) (path : String) : IO Unit := do
  match (before.read path).toOption, (after.read path).toOption with
  | old, some new =>
    if old != some new then
      match Path.parent? path with
      | some parts => IO.FS.createDirAll ("/".intercalate parts)
      | none => pure ()
      IO.FS.writeFile (StateFile.scratch path) new
      IO.FS.rename (StateFile.scratch path) path
  | _, none => pure ()

/-- The files that a run may read, and the path that it may write. -/
def survey (processors : Nat) (environment : List (String × String)) (args : List String) : IO (Files × Option String) := do
  match CommandLine.ofArguments args with
  | .error _ => return ({}, none)
  | .ok c =>
    let files ← match c.config with
      | some path => copyIn {} path
      | none => pure {}
    match Settings.load processors files environment c with
    | .error _ => return (files, none)
    | .ok settings =>
      match settings.state.path with
      | some path => return (← copyIn files path, some path)
      | none => return (files, none)

end Herald.Main

/-- Runs the program on the arguments of the process. -/
def main (args : List String) : IO UInt32 := do
  let environment ← Herald.Main.environment
  let processors ← Herald.Main.processors
  let (files, path) ← Herald.Main.survey processors environment args
  let start ← Herald.Main.now
  let machine : Herald.Machine := {
    processors, environment, files
    now := fun _ => start
    network := .unreachable
    turns := fun ended => ⟨ended + 1, start⟩
    endsWithin := fun _ _ => true }
  let transcript := Herald.Program.run machine args
  for record in transcript.logs do
    IO.eprintln (record.level.name ++ " " ++ record.message)
  IO.print transcript.output
  for line in transcript.errors do
    IO.eprintln line
  match path with
  | some path => Herald.Main.copyOut files transcript.files path
  | none => pure ()
  return transcript.code.toUInt32
