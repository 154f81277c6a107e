/-!
# The options of the command line

The commands, the options that each level of the command line knows, and how options are written:
`--long`, `--long=value`, `-s`, `-svalue` or `-s=value`.
-/

namespace NodePki.CommandLine

/-- The levels of the command line: before the name of a command, and after it. -/
inductive Level
  | program
  | ensure
  | inspect
  deriving DecidableEq, Repr

/-- The options. -/
inductive Flag
  | help
  | ns
  | pod
  | cluster
  | certificateType
  | label
  | dryRun
  | json
  deriving DecidableEq, Repr

namespace Flag

/-- The long name of an option. -/
def long : Flag → String
  | help => "help"
  | ns => "namespace"
  | pod => "pod"
  | cluster => "cluster"
  | certificateType => "cert-type"
  | label => "label"
  | dryRun => "dry-run"
  | json => "json"

/-- The letter of an option that has one. -/
def short? : Flag → Option Char
  | help => some 'h'
  | ns => some 'n'
  | _ => none

/-- Whether an option has a value. -/
def takesValue : Flag → Bool
  | help | dryRun | json => false
  | ns | pod | cluster | certificateType | label => true

end Flag

namespace Level

/-- What a level is for. -/
def about : Level → String
  | program => "Issue and inspect mutual-TLS node certificate secrets"
  | ensure => "Ensure the node certificate secret of a pod exists"
  | inspect => "Print the subject and SubjectAltName entries of a stored node certificate"

/-- The options that a level knows. -/
def flags : Level → List Flag
  | program => [.help, .ns]
  | ensure => [.pod, .cluster, .certificateType, .label, .dryRun, .help, .ns]
  | inspect => [.json, .help, .ns]

/-- The options that a level cannot do without. -/
def required : Level → List Flag
  | program => []
  | ensure => [.pod, .cluster]
  | inspect => []

/-- The levels of commands by name. -/
def commands : List (String × Level) := [("ensure", ensure), ("inspect", inspect)]

/-- The option of a level with a long name. -/
def long? (level : Level) (name : String) : Option Flag :=
  level.flags.find? fun flag => flag.long = name

/-- The option of a level with a letter. -/
def short? (level : Level) (letter : Char) : Option Flag :=
  level.flags.find? fun flag => flag.short? = some letter

end Level

/-- What an argument looks like, by its dashes alone. -/
inductive Shape
  /-- Two dashes: what follows is no option. -/
  | escape
  /-- A long name, with the value written after it. -/
  | long (name : List Char) (value : Option (List Char))
  /-- A letter, with all that is written after it. -/
  | short (letter : Char) (rest : List Char)
  /-- Anything else, a single dash among it. -/
  | plain
  deriving DecidableEq, Repr

/-- What an argument looks like. -/
def Shape.of (argument : String) : Shape :=
  match argument.toList with
  | ['-', '-'] => escape
  | '-' :: '-' :: rest =>
    let (name, rest) := rest.span (· != '=')
    long name rest.tail?
  | '-' :: letter :: rest => short letter rest
  | _ => plain

/-- The value that is written right after the letter of an option; an equals sign before it is no
part of it. -/
def attached? : List Char → Option (List Char)
  | [] => none
  | '=' :: value => some value
  | value => some value

end NodePki.CommandLine
