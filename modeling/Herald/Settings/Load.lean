import Herald.CommandLine
import Herald.Files
import Herald.Settings
import Herald.Settings.Environment
import Herald.Toml.Document

/-!
# Loading the settings

Four layers, each of which counts over those before it: the standard ones, the file that the command line names, the environment, and
the options of the command line.
-/

namespace Herald

/-- The options of a command line as a layer. -/
def CommandLine.layer (c : CommandLine) : Value :=
  .ofFields <|
    (c.logLevel.map fun s => ("log_level", .text s)).toList ++
      (c.maxWorkers.map fun n => ("offload", .object [("max_workers", .unsigned n)])).toList ++
      (c.statePath.map fun s => ("state", .object [("path", .text s)])).toList

namespace Settings

/-- Why no settings could be loaded. -/
inductive LoadError
  /-- There is no file under the path. -/
  | notFound (path : String)
  /-- The file is not well formed. -/
  | malformed
  /-- A value does not fit. -/
  | unfit (fault : Fault)
  | defective (defect : Defect)

/-- The wording of a load that failed. -/
def LoadError.message : LoadError → String
  | .notFound path => "configuration file not found: " ++ path
  | .malformed => "the configuration file is not well formed"
  | .unfit fault =>
    if fault.path.isEmpty then fault.message .settings
    else fault.message .settings ++ " for key \"" ++ fault.pathText ++ "\""
  | .defective defect => defect.message

/-- The layer of the file that the command line names. What is there but is no file has no settings. -/
def fileLayer (files : Files) : Option String → Except LoadError Value
  | none => .ok (.object [])
  | some path =>
    if !files.contains path then .error (.notFound path)
    else
      match files.read path with
      | .error _ => .ok (.object [])
      | .ok text =>
        match Value.ofToml? text with
        | some v => .ok v
        | none => .error .malformed

/-- Loads the settings on a machine with so many processors. -/
def load (processors : Nat) (files : Files) (environment : List (String × String)) (c : CommandLine) : Except LoadError Settings := do
  let file ← fileLayer files c.config
  let layers := [(standard processors).toValue, file, Environment.layer environment, c.layer]
  match ofValue .settings (Value.layered layers) with
  | .error fault => .error (.unfit fault)
  | .ok settings =>
    match settings.defect? with
    | some defect => .error (.defective defect)
    | none => .ok settings

end Settings

end Herald
