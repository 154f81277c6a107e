import NodePki.Bytes
import NodePki.Log.Event
import NodePki.Program.Basic
import NodePki.Time.Instant

/-!
# Surroundings

What programs ask of the machine they run on: the time of day, a clock for spans, sleep, random
octets, and that an event is reported.
-/

namespace NodePki

/-- What may be asked of the machine. -/
inductive Surroundings.Op
  /-- Reports an event. -/
  | report (event : Log.Event)
  /-- The time of day. -/
  | now
  /-- The time since some fixed moment; it never goes back. -/
  | uptime
  /-- Waits. -/
  | sleep (span : Duration)
  /-- Octets that nobody can foretell. -/
  | random (count : Nat)

/-- The machine. -/
@[reducible] def Surroundings : Signature where
  Op := Surroundings.Op
  Answer
    | .report _ => Unit
    | .now => Instant
    | .uptime => Duration
    | .sleep _ => Unit
    | .random count => Vector UInt8 count

namespace Surroundings

/-- Reports an event of a part of the program. -/
def report (source : Log.Source) (level : Log.Level) (message : String)
    (fields : List (String × String)) : Program Surroundings Unit :=
  Program.perform Surroundings (Op.report (source.event level message fields))

/-- The time of day. -/
def now : Program Surroundings Instant := Program.perform Surroundings Op.now

/-- The time since some fixed moment. -/
def uptime : Program Surroundings Duration := Program.perform Surroundings Op.uptime

/-- Waits. -/
def sleep (span : Duration) : Program Surroundings Unit :=
  Program.perform Surroundings (Op.sleep span)

/-- Random octets. -/
def random (count : Nat) : Program Surroundings (Vector UInt8 count) :=
  Program.perform Surroundings (Op.random count)

end Surroundings

end NodePki
