import NodePki.Log.Filter

/-!
# What shows events

Events are shown through one filter, which is chosen once. A later choice leaves the first as it is
and is itself reported.
-/

namespace NodePki.Log

/-- What shows events. -/
inductive Subscriber
  /-- Nothing yet. -/
  | absent
  /-- Shows the events that a filter admits. -/
  | present (filter : Filter)
  deriving DecidableEq, Repr

namespace Subscriber

/-- The report of a later choice. -/
def alreadyPresent : Event :=
  Source.log.event .warn ("Tracing subscriber already initialized: " ++
    "a global default trace dispatcher has already been set") []

/-- Chooses a filter, and answers what there is to report. -/
def choose : Subscriber → Filter → Subscriber × List Event
  | absent, filter => (present filter, [])
  | present first, _ => (present first, [alreadyPresent])

/-- Whether an event is shown. -/
def shows : Subscriber → Event → Bool
  | absent, _ => false
  | present filter, e => filter.admits e

end Subscriber

end NodePki.Log
