import Herald.Number.Written

/-!
# Scanning arguments

The arguments of one command are scanned from left to right. An option takes the value attached to it, or the next argument, unless
that looks like an option itself. What an option was given is checked when the next option turns up, or at the end, so an argument
that no option can take is told before a fault of the option in front of it.
-/

namespace Herald.CommandLine

/-- Why arguments are refused, or what is shown in their place. -/
inductive Refusal
  | unknownArgument
  | invalidSubcommand
  | invalidValue
  | valueValidation
  | tooManyValues
  | missingRequiredArgument
  | argumentConflict
  | displayHelp
  | displayVersion
  deriving DecidableEq, Repr, Inhabited

/-- The wording of a refusal. -/
def Refusal.message : Refusal → String
  | .unknownArgument => "unexpected argument"
  | .invalidSubcommand => "unrecognized command"
  | .invalidValue => "an option needs a value"
  | .valueValidation => "an option was given a value that does not fit"
  | .tooManyValues => "an option was given more values than it takes"
  | .missingRequiredArgument => "a required option was not given"
  | .argumentConflict => "an option was given more than once"
  | .displayHelp => "help was asked for"
  | .displayVersion => "the version was asked for"

/-- What an option may be given. -/
inductive ValueKind
  /-- Any text. -/
  | text
  /-- A text that is not empty. -/
  | path
  /-- A whole number below `2 ^ 64`. -/
  | count
  deriving DecidableEq, Repr

/-- What an option does. -/
inductive OptionKind
  | help
  | version
  | flag
  | single (value : ValueKind)
  | repeated (value : ValueKind)
  deriving DecidableEq, Repr

/-- An option with its long name and the letter it may also have. -/
structure OptionSpec where
  long : String
  short : Option Char := none
  kind : OptionKind
  deriving DecidableEq, Repr

/-- What has been scanned: the values given to options, and the option that has been named last with its value, if it takes one
from the arguments. -/
structure Scan where
  given : List (String × String) := []
  pending : Option (OptionSpec × Option String) := none

namespace Scan

/-- Whether an option was given already. -/
def has (s : Scan) (o : OptionSpec) : Bool :=
  s.given.any fun g => g.1 == o.long

/-- Adds what an option was given. -/
def add (s : Scan) (o : OptionSpec) (value : String) : Scan :=
  { s with given := s.given ++ [(o.long, value)] }

/-- Checks a value. -/
def check (kind : ValueKind) (value : String) : Except Refusal Unit :=
  match kind with
  | .text => .ok ()
  | .path => if value.isEmpty then .error .invalidValue else .ok ()
  | .count => if (Written.count? value).isSome then .ok () else .error .valueValidation

/-- Gives an option a value. -/
def accept (s : Scan) (o : OptionSpec) (value : String) : Except Refusal Scan :=
  match o.kind with
  | .help => .error .displayHelp
  | .version => .error .displayVersion
  | .flag => if s.has o then .error .argumentConflict else .ok (s.add o "")
  | .single kind => do
    if s.has o then .error .argumentConflict
    check kind value
    return s.add o value
  | .repeated kind => do
    check kind value
    return s.add o value

/-- Checks the option that was named last. -/
def settle (s : Scan) : Except Refusal Scan :=
  match s.pending with
  | none => .ok s
  | some (_, none) => .error .invalidValue
  | some (o, some value) => accept { s with pending := none } o value

/-- Whether an option takes a value. -/
def takesValue (o : OptionSpec) : Bool :=
  match o.kind with
  | .single _ => true
  | .repeated _ => true
  | _ => false

/-- Names an option, with the value attached to it or none. -/
def name (s : Scan) (o : OptionSpec) (attached : Option String) : Except Refusal Scan := do
  if takesValue o then
    let s ← s.settle
    match attached with
    | some value => s.accept o value
    | none => return { s with pending := some (o, none) }
  else
    match attached with
    | some _ => .error .tooManyValues
    | none => (← s.settle).accept o ""

/-- Splits the name of a long option from the value attached to it. -/
def splitLong (cs : List Char) : String × Option String :=
  let name := String.ofList (cs.takeWhile (· != '='))
  match cs.dropWhile (· != '=') with
  | [] => (name, none)
  | _ :: value => (name, some (String.ofList value))

/-- Scans the letters after a single dash: flags, up to an option that takes the rest as its value. -/
def letters (options : List OptionSpec) (s : Scan) : List Char → Except Refusal Scan
  | [] => .ok s
  | c :: rest =>
    match options.find? fun o => o.short == some c with
    | none => .error .unknownArgument
    | some o =>
      if takesValue o then
        match rest with
        | [] => s.name o none
        | '=' :: value => s.name o (some (String.ofList value))
        | value => s.name o (some (String.ofList value))
      else do letters options (← s.name o none) rest

/-- Whether the option that was named last still lacks its value. -/
def isWaiting (s : Scan) : Bool :=
  match s.pending with
  | some (_, none) => true
  | _ => false

/-- Gives the option that was named last its value. -/
def supply (s : Scan) (value : String) : Scan :=
  { s with pending := s.pending.map fun p => (p.1, some value) }

end Scan

/-- What a scan ends with: at the end of the arguments, or at the name of a command with the arguments that follow. -/
inductive Stop
  | done
  | command (name : String) (rest : List String)

/-- Scans the arguments of a command. `stray` is what an argument is refused with that belongs to no option, which may depend on
whether it comes after a double dash. -/
def scan (options : List OptionSpec) (commands : List String) (stray : Bool → String → Refusal) (s : Scan) :
    List String → Except Refusal (Scan × Stop)
  | [] => .ok (s, .done)
  | arg :: rest =>
    if !s.isWaiting && commands.contains arg then .ok (s, .command arg rest)
    else
      match arg.toList with
      | ['-', '-'] =>
        match rest with
        | [] => .ok (s, .done)
        | next :: _ => .error (stray true next)
      | '-' :: '-' :: long => do
        let (name, attached) := Scan.splitLong long
        match options.find? fun o => o.long == name with
        | none => .error .unknownArgument
        | some o => scan options commands stray (← s.name o attached) rest
      | '-' :: c :: letters => do
        scan options commands stray (← Scan.letters options s (c :: letters)) rest
      | _ => if s.isWaiting then scan options commands stray (s.supply arg) rest else .error (stray false arg)

end Herald.CommandLine
