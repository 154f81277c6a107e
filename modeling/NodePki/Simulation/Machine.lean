import NodePki.Crypto.Sha2
import NodePki.Program.Surroundings

/-!
# A simulated machine

A machine on which only sleep takes time: its timer ends a sleep at the first whole millisecond that
is not too early, and a sleep past the range of its clock lasts thirty years. Random octets are
digests of a counter, and what is reported is kept.
-/

namespace NodePki

/-- A machine whose time of day stands still while its clock for spans goes on. -/
structure Machine where
  /-- The time of day. -/
  now : Instant
  /-- The time since the machine was started. -/
  uptime : Duration
  /-- How many digests have been taken for random octets. -/
  drawn : Nat
  /-- The events, last one first. -/
  events : List Log.Event

namespace Machine

/-- A machine just started. -/
def start (now : Instant) : Machine := ⟨now, .zero, 0, []⟩

/-- The nanoseconds of a millisecond. -/
def tick : Nat := 1000000

/-- The longest sleep, for spans past the range of the clock. -/
def longestSleep : Duration := .ofDays (30 * 365)

/-- The span that a sleep lasts before it is rounded. -/
def sleepSpan (span : Duration) : Duration :=
  if Nat.pow 2 63 ≤ span.seconds then longestSleep else span

/-- When a sleep that begins at a time ends. -/
def wake (uptime span : Duration) : Duration :=
  if span.nanos = 0 then uptime
  else ⟨(uptime.nanos + (sleepSpan span).nanos + tick - 1) / tick * tick⟩

/-- The digests of a counter from a number on, one after another. -/
def digests : (blocks first : Nat) → Bytes
  | 0, _ => []
  | blocks + 1, first =>
    Sha2.sha256.digest (Bytes.ofWidth 8 first) ++ digests blocks (first + 1)

/-- Answers a question. -/
def answer (m : Machine) : (op : Surroundings.Op) → Surroundings.Answer op × Machine
  | .report event => ((), { m with events := event :: m.events })
  | .now => (m.now, m)
  | .uptime => (m.uptime, m)
  | .sleep span => ((), { m with uptime := wake m.uptime span })
  | .random count =>
    let blocks := (count + 31) / 32
    let octets := digests blocks m.drawn
    (Vector.ofFn fun i => octets.getD i.val 0, { m with drawn := m.drawn + blocks })

/-- The events in the order in which they were reported. -/
def reported (m : Machine) : List Log.Event := m.events.reverse

end Machine

end NodePki
