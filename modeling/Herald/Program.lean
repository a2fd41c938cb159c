import Herald.App
import Herald.Settings.Load

/-!
# The program

A run of the program from its arguments to what it prints: the settings are loaded, the application is built, the targets are listed or
a message is sent, and the application is shut down. Nothing here acts on the world; a machine says what the program finds, and a
transcript what it leaves.
-/

namespace Herald

/-- What the program finds when it starts, and what happens while it runs. -/
structure Machine where
  processors : Nat
  environment : List (String × String)
  files : Files
  /-- The time at every reading of the clock. -/
  now : Nat → Instant
  network : Network
  /-- When, and in the task of which number, each of the sends that end is carried out. -/
  turns : Nat → Turn
  /-- Whether a send that has a worker ends within a span. -/
  endsWithin : Span → Send → Bool

/-- What a run leaves. -/
structure Transcript where
  code : Nat
  /-- What is written to the standard output. -/
  output : String := ""
  /-- What is written to the standard error. -/
  errors : List String := []
  /-- What the targets wrote to the log. -/
  logs : List LogRecord := []
  files : Files

namespace Program

/-- The name of the program. -/
def name : String := "notifyhub"

/-- What is shown in place of a run that is asked for the version. -/
def versionText : String := name ++ " 0.1.0\n"

/-- What is shown in place of a run that is asked for help. -/
def helpText : String :=
  "Usage: " ++ name ++ " [OPTIONS] [COMMAND]\n\nCommands:\n" ++
    "  list  List the configured targets\n  send  Send a message\n  help  Show this text\n\nOptions:\n" ++
    String.join (CommandLine.mainOptions.map fun o => "      --" ++ o.long ++ "\n")

/-- The words for a last activation. -/
def activationText : Option Instant → String
  | some t => t.renderOffset
  | none => "never"

/-- The line for a target. -/
def targetLine (i : TargetInfo) : String :=
  "\t".intercalate [i.identity, i.name, i.features.display, activationText i.lastNotified] ++ "\n"

/-- The list of the targets, as lines or as one value. -/
def listing (json : Bool) (infos : List TargetInfo) : String :=
  if json then (Value.list (infos.map TargetInfo.toValue)).indented ++ "\n"
  else String.join (infos.map targetLine)

/-- The line for a send. -/
def sendLine (identity : String) : Except DispatchError Unit → String
  | .ok () => identity ++ "\tsent\n"
  | .error e => identity ++ "\tfailed: " ++ e.message ++ "\n"

/-- The reason of a run in which sends failed. -/
def failedSends (failures total : Nat) : Failure :=
  ⟨toString failures ++ " of " ++ toString total ++ " sends failed", []⟩

/-- What a command printed, how it ended, and the hub after it. -/
structure CommandResult where
  output : String := ""
  result : Except Failure Unit
  hub : Hub

/-- The sends of some tickets with what came of them when they had been waited for. -/
def sendResults (hub : Hub) (deadline : Option Span) (tickets : List Nat) : List (String × Except DispatchError Unit) :=
  tickets.filterMap fun ticket => do
    let s ← hub.pool.submissions[ticket]?
    return (s.send.registration.identity, ← hub.pool.await? deadline ticket)

/-- What the results of some sends come to: a line for each, and a failure if one of them failed. -/
def report (results : List (String × Except DispatchError Unit)) (total : Nat) (hub : Hub) : CommandResult :=
  let failures := results.countP fun r => match r.2 with
    | .ok () => false
    | .error _ => true
  {
    output := String.join (results.map fun r => sendLine r.1 r.2)
    result := if failures = 0 then .ok () else .error (failedSends failures total)
    hub }

/-- Sends a message and waits for all its sends. -/
def send (m : Machine) (app : App) (a : SendArguments) : CommandResult :=
  match a.serviceData with
  | .error failure => { result := .error failure, hub := app.hub }
  | .ok data =>
    match app.hub.callService m.now data with
    | .error e => { result := .error ⟨e.message, []⟩, hub := app.hub }
    | .ok (tickets, hub) =>
      let deadline := (a.timeoutSeconds.map Span.ofSeconds).or app.defaultTimeout
      let hub := hub.settle m.network m.turns fun s => deadline.all fun limit => m.endsWithin limit s
      report (sendResults hub deadline tickets) tickets.length hub

/-- Runs a command. Without one the targets are listed. -/
def command (m : Machine) (app : App) : Option Command → CommandResult
  | none => { output := listing false app.hub.registry.snapshot, result := .ok (), hub := app.hub }
  | some (.list json) => { output := listing json app.hub.registry.snapshot, result := .ok (), hub := app.hub }
  | some (.send a) => send m app a

/-- A run that ends before anything was done. -/
def stopped (m : Machine) (code : Nat) (errors : List String) : Transcript :=
  { code, errors, files := m.files }

/-- The end of a run after a command: the application is shut down. A shutdown that fails is told before a command that failed. -/
def close (done : CommandResult) (app : App) (files : Files) : Transcript :=
  let closed := (app.withHub done.hub).shutdown files
  let (code, errors) := match closed.result, done.result with
    | .error failure, _ => (1, ["Error: " ++ failure.report])
    | .ok (), .error failure => (1, ["error: " ++ failure.full])
    | .ok (), .ok () => (0, [])
  { code, output := done.output, errors, logs := closed.hub.logs, files := closed.files }

/-- A run on an application that was built. -/
def runApp (m : Machine) (app : App) (c : Option Command) : Transcript :=
  close (command m app c) app m.files

/-- What is said of an application that cannot be built, and the code of the run. -/
def buildFailure : App.BuildError → Nat × String
  | .failed failure => (1, "Error: " ++ failure.report)
  | .capacityTooLarge => (101, "the event bus cannot keep so many events")
  | .tooManyWorkers => (101, "the pool cannot have so many workers")

/-- Runs the program on some arguments. -/
def run (m : Machine) (args : List String) : Transcript :=
  match CommandLine.ofArguments args with
  | .error .displayHelp => { code := 0, output := helpText, files := m.files }
  | .error .displayVersion => { code := 0, output := versionText, files := m.files }
  | .error refusal => stopped m 2 ["error: " ++ refusal.message]
  | .ok c =>
    match Settings.load m.processors m.files m.environment c with
    | .error e => stopped m 2 ["Failed to load configuration: " ++ e.message]
    | .ok settings =>
      match App.build settings (App.backend settings.state) [] m.files with
      | .error e => stopped m (buildFailure e).1 [(buildFailure e).2]
      | .ok (app, _) => runApp m app c.command

end Program

end Herald
