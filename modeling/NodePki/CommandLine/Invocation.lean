import NodePki.CommandLine.Flag
import NodePki.CommandLine.LabelOption

/-!
# Reading the command line

Arguments are read from left to right. An option's value is checked when the next argument that means
something is read, or at the end, so of two mistakes the first one is answered, unless the second is
an argument that means nothing where it stands.

* `Reading.next`: one argument on a level of the command line;
* `readCommand`: the arguments after the name of a command;
* `Invocation.read`: all arguments.
-/

namespace NodePki.CommandLine

/-- Why no command is run. -/
inductive Stop
  /-- A level is to be explained. -/
  | help (level : Level)
  /-- The explanations are to be explained. -/
  | helpOnHelp
  | noCommand
  /-- An argument that means nothing where it stands. -/
  | unexpected (argument : String)
  | noValue (flag : Flag)
  | hasValue (flag : Flag)
  | repeated (flag : Flag)
  /-- A label that is none, with what was expected. -/
  | label (complaint : String)
  | missing (flag : Flag)
  | noSecret
  deriving DecidableEq, Repr

namespace Stop

/-- Whether something was asked for, rather than wrong. -/
def isHelp : Stop → Bool
  | help _ | helpOnHelp => true
  | _ => false

/-- What there is to say. -/
def message : Stop → String
  | help level => level.about
  | helpOnHelp => "Print this message or the help of the given subcommand(s)"
  | noCommand => "a command is needed: ensure or inspect"
  | unexpected argument => s!"unexpected argument {Quoted.quote argument}"
  | noValue flag => s!"--{flag.long} needs a value"
  | hasValue flag => s!"--{flag.long} takes no value"
  | repeated flag => s!"--{flag.long} cannot be given more than once"
  | label complaint => complaint
  | missing flag => s!"--{flag.long} is required"
  | noSecret => "the name of a secret is required"

end Stop

/-- What has been read on a level. -/
structure Reading where
  level : Level
  /-- The checked options with their values, last one first. One without a value has an empty one. -/
  given : List (Flag × String) := []
  /-- The labels, last one first. -/
  labels : List (String × String) := []
  /-- The last option, not checked yet, with its value if that has been read. -/
  pending : Option (Flag × Option String) := none
  /-- What is named without an option. -/
  operand : Option String := none
  deriving DecidableEq, Repr

namespace Reading

/-- Whether the next argument may be the value of an option. -/
def awaits (r : Reading) : Bool := r.pending.any fun p => p.2.isNone

/-- Checks an option with its value. -/
def record (r : Reading) (flag : Flag) (value : String) : Except Stop Reading :=
  if flag = .label then
    match parseLabel value with
    | .ok label => .ok { r with labels := label :: r.labels }
    | .error complaint => .error (.label complaint)
  else if r.given.any fun g => g.1 = flag then .error (.repeated flag)
  else .ok { r with given := (flag, value) :: r.given }

/-- Checks the last option. -/
def settle (r : Reading) : Except Stop Reading :=
  match r.pending with
  | none => .ok r
  | some (flag, none) => .error (.noValue flag)
  | some (flag, some value) => { r with pending := none }.record flag value

/-- An option with what is written right after it. -/
def option (r : Reading) (flag : Flag) (attached : Option (List Char)) : Except Stop Reading :=
  if flag.takesValue then do
    let r ← r.settle
    match attached with
    | some value => r.record flag (String.ofList value)
    | none => return { r with pending := some (flag, none) }
  else
    match attached with
    | some _ => .error (.hasValue flag)
    | none => do
      let r ← r.settle
      if flag = .help then throw (.help r.level)
      r.record flag ""

/-- An argument that is named without an option; a level has at most one. -/
def named (r : Reading) (argument : String) : Except Stop Reading :=
  if r.level = .inspect ∧ r.operand = none then do
    let r ← r.settle
    return { r with operand := some argument }
  else .error (.unexpected argument)

/-- The next argument, where options may stand. -/
def next (r : Reading) (argument : String) : Except Stop Reading :=
  match Shape.of argument with
  | .long name value =>
    match r.level.long? (String.ofList name) with
    | some flag => r.option flag value
    | none => .error (.unexpected argument)
  | .short letter rest =>
    match r.level.short? letter with
    | some flag => if flag.takesValue then r.option flag (attached? rest) else r.option flag none
    | none => .error (.unexpected argument)
  | .plain | .escape =>
    match r.pending with
    | some (flag, none) => .ok { r with pending := some (flag, some argument) }
    | _ => r.named argument

/-- The arguments of a level without commands. After two dashes there are no options. -/
def all (r : Reading) : List String → Except Stop Reading
  | [] => r.settle
  | argument :: rest =>
    if Shape.of argument = .escape then do (← rest.foldlM named r).settle
    else do all (← r.next argument) rest

/-- The value of an option. -/
def value? (r : Reading) (flag : Flag) : Option String :=
  (r.given.find? fun g => g.1 = flag).map (·.2)

/-- The value of an option that cannot be done without. -/
def value (r : Reading) (flag : Flag) : Except Stop String :=
  match r.value? flag with
  | some value => .ok value
  | none => .error (.missing flag)

/-- Whether an option is given. -/
def has (r : Reading) (flag : Flag) : Bool := (r.value? flag).isSome

end Reading

/-- A command with its options. -/
inductive Command
  | ensure (pod cluster : String) (certificateType : Option String)
    (labels : List (String × String)) (dryRun : Bool)
  | inspect (secret : String) (json : Bool)
  deriving DecidableEq, Repr

/-- A command and the namespace to work in. -/
structure Invocation where
  ns : Option String
  command : Command
  deriving DecidableEq, Repr

/-- The command of a level. -/
def Command.ofReading (r : Reading) : Except Stop Command :=
  match r.level with
  | .program => .error .noCommand
  | .ensure => do
    let pod ← r.value .pod
    let cluster ← r.value .cluster
    return .ensure pod cluster (r.value? .certificateType) r.labels.reverse (r.has .dryRun)
  | .inspect =>
    match r.operand with
    | some secret => .ok (.inspect secret (r.has .json))
    | none => .error .noSecret

/-- The arguments after the name of a command. -/
def readCommand (level : Level) (arguments : List String) : Except Stop Invocation := do
  let r ← Reading.all { level } arguments
  let command ← Command.ofReading r
  return ⟨r.value? .ns, command⟩

/-- The name of the command that explains the others. -/
def helpName : String := "help"

/-- What the arguments after `help` ask for. -/
def readHelp : List String → Stop
  | [] => .help .program
  | [name] =>
    match Level.commands.lookup name with
    | some level => .help level
    | none => if name = helpName then .helpOnHelp else .unexpected name
  | name :: second :: _ =>
    if (Level.commands.lookup name).isSome ∨ name = helpName then .unexpected second
    else .unexpected name

/-- The arguments from a place before the name of a command on. -/
def readFrom (r : Reading) : List String → Except Stop Invocation
  | [] => do
    let _ ← r.settle
    throw .noCommand
  | argument :: rest =>
    match if r.awaits then none else Level.commands.lookup argument with
    | some level => do
      let invocation ← readCommand level rest
      let r ← r.settle
      return { invocation with ns := invocation.ns.or (r.value? .ns) }
    | none =>
      if !r.awaits ∧ argument = helpName then .error (readHelp rest)
      else if Shape.of argument = .escape then do
        let r ← rest.foldlM Reading.named r
        let _ ← r.settle
        throw .noCommand
      else do readFrom (← r.next argument) rest

/-- Reads the command line. A namespace after the name of the command goes before one in front of
it. -/
def Invocation.read (arguments : List String) : Except Stop Invocation :=
  readFrom { level := .program } arguments

end NodePki.CommandLine
