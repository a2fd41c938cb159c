import Herald.Call
import Herald.CommandLine.Scan
import Herald.Json.Reader

/-!
# The command line

Options for the settings, which may stand before or after the command, and two commands: one lists the targets, one sends a message.
An option that stands in both places counts as it is given last.
-/

namespace Herald

/-- The arguments of the command that sends. -/
structure SendArguments where
  targets : List String
  message : Option String := none
  title : Option String := none
  recipients : List String := []
  /-- The data as text, not yet read. -/
  data : Option String := none
  timeoutSeconds : Option Nat := none
  deriving DecidableEq, Repr, Inhabited

/-- A command. -/
inductive Command
  | list (json : Bool)
  | send (arguments : SendArguments)
  deriving DecidableEq, Repr, Inhabited

/-- What the arguments say. -/
structure CommandLine where
  config : Option String := none
  logLevel : Option String := none
  maxWorkers : Option Nat := none
  statePath : Option String := none
  command : Option Command := none
  deriving DecidableEq, Repr, Inhabited

namespace SendArguments

/-- The reason why the data cannot be read. -/
def badData : String := "--data is not valid JSON"

/-- The arguments as the value of a service call. -/
def serviceData (a : SendArguments) : Except Failure Value := do
  let data ← match a.data with
    | none => pure []
    | some text =>
      match Value.ofJson? text with
      | some v => pure [("data", v)]
      | none => throw ⟨badData, []⟩
  let recipients := match a.recipients with
    | [] => []
    | recipients => [("recipients", Value.ofTexts recipients)]
  return .ofFields <|
    ("target", .ofTexts a.targets) :: (a.message.map fun s => ("message", .text s)).toList ++
      (a.title.map fun s => ("title", .text s)).toList ++ recipients ++ data

end SendArguments

namespace CommandLine

/-- The option that shows the help. -/
def helpOption : OptionSpec := ⟨"help", some 'h', .help⟩

/-- The options for the settings. -/
def globalOptions : List OptionSpec := [
  ⟨"config", some 'c', .single .path⟩,
  ⟨"log-level", none, .single .text⟩,
  ⟨"max-workers", none, .single .count⟩,
  ⟨"state-path", none, .single .path⟩]

/-- The options before the command. -/
def mainOptions : List OptionSpec :=
  globalOptions ++ [helpOption, ⟨"version", some 'V', .version⟩]

/-- The options of the command that lists. -/
def listOptions : List OptionSpec :=
  globalOptions ++ [helpOption, ⟨"json", none, .flag⟩]

/-- The options of the command that sends. -/
def sendOptions : List OptionSpec :=
  globalOptions ++ [
    helpOption,
    ⟨"target", some 't', .repeated .text⟩,
    ⟨"message", some 'm', .single .text⟩,
    ⟨"title", none, .single .text⟩,
    ⟨"recipient", some 'r', .repeated .text⟩,
    ⟨"data", none, .single .text⟩,
    ⟨"timeout-secs", none, .single .count⟩]

/-- The names of the commands. -/
def commandNames : List String := ["list", "send", "help"]

/-- What an argument before the command is refused with. -/
def strayBefore (afterDashes : Bool) (arg : String) : Refusal :=
  if afterDashes && commandNames.contains arg then .unknownArgument else .invalidSubcommand

/-- What an argument of a command is refused with. -/
def strayOf (_ : Bool) (_ : String) : Refusal := .unknownArgument

/-- The value given to an option. -/
def value? (given : List (String × String)) (long : String) : Option String :=
  given.lookup long

/-- All values given to an option. -/
def values (given : List (String × String)) (long : String) : List String :=
  (given.filter fun g => g.1 == long).map (·.2)

/-- Scans the arguments of a command that has none below it. -/
def scanCommand (options : List OptionSpec) (args : List String) : Except Refusal (List (String × String)) := do
  let (s, _) ← scan options [] strayOf {} args
  return (← s.settle).given

/-- What the help is asked for. -/
def helpRefusal : List String → Refusal
  | [] => .displayHelp
  | [name] => if commandNames.contains name then .displayHelp else .invalidSubcommand
  | _ => .invalidSubcommand

/-- Reads a command with its arguments. -/
def readCommand (name : String) (args : List String) : Except Refusal (Command × List (String × String)) :=
  match name with
  | "list" => do
    let given ← scanCommand listOptions args
    return (.list (value? given "json").isSome, given)
  | "send" => do
    let given ← scanCommand sendOptions args
    match values given "target" with
    | [] => .error .missingRequiredArgument
    | targets =>
      return (.send {
        targets
        message := value? given "message"
        title := value? given "title"
        recipients := values given "recipient"
        data := value? given "data"
        timeoutSeconds := (value? given "timeout-secs").bind Written.count?
      }, given)
  | _ => .error (helpRefusal args)

/-- Puts the options of the settings together; those after the command count before those in front of it. -/
def assemble (before after : List (String × String)) (command : Option Command) : CommandLine :=
  let value? (long : String) := (CommandLine.value? after long).or (CommandLine.value? before long)
  { config := value? "config", logLevel := value? "log-level", maxWorkers := (value? "max-workers").bind Written.count?,
    statePath := value? "state-path", command }

/-- Reads the arguments. The command is read to its end before the options in front of it are checked for the last time. -/
def ofArguments (args : List String) : Except Refusal CommandLine := do
  let (s, stop) ← scan mainOptions commandNames strayBefore {} args
  match stop with
  | .done => return assemble (← s.settle).given [] none
  | .command name rest =>
    let (command, after) ← readCommand name rest
    return assemble (← s.settle).given after (some command)

end CommandLine

end Herald
