/-!
# Log events

What is reported on the way: a level, the part of the program that speaks, a message and fields.
-/

namespace NodePki.Log

/-- How much an event matters, from most to least. -/
inductive Level
  | error
  | warn
  | info
  | debug
  | trace
  deriving DecidableEq, Repr

/-- The name of a level. -/
def Level.name : Level → String
  | error => "ERROR"
  | warn => "WARN"
  | info => "INFO"
  | debug => "DEBUG"
  | trace => "TRACE"

/-- Levels by number; a filter of a number lets through the levels up to it. -/
def Level.rank : Level → Nat
  | error => 1
  | warn => 2
  | info => 3
  | debug => 4
  | trace => 5

/-- One report. -/
structure Event where
  level : Level
  /-- The part of the program that speaks, as names joined by `::`. -/
  target : String
  message : String
  /-- Names and values, in the order in which they are shown. -/
  fields : List (String × String)
  deriving DecidableEq, Repr

/-- An event as a line: its level, who speaks, what is said, and the fields. -/
def Event.line (e : Event) : String :=
  e.fields.foldl (fun line f => line ++ " " ++ f.1 ++ "=" ++ f.2)
    (e.level.name ++ " " ++ e.target ++ ": " ++ e.message)

/-- The parts of the program that report. -/
inductive Source
  | program
  | authority
  | secrets
  | retry
  | store
  | log
  deriving DecidableEq, Repr

/-- The target of a part's events. -/
def Source.target : Source → String
  | program => "node_certs"
  | authority => "node_certs_controller::certs::ca"
  | secrets => "node_certs_controller::controller::nodecerts"
  | retry => "node_certs_controller::controller::retry"
  | store => "node_certs_controller::controller::store"
  | log => "node_certs_controller::observability"

/-- An event of a part of the program. -/
def Source.event (source : Source) (level : Level) (message : String)
    (fields : List (String × String)) : Event :=
  ⟨level, source.target, message, fields⟩

end NodePki.Log
