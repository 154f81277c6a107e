import NodePki.Time.Civil
import NodePki.Time.Duration

/-!
# Instants

Moments in nanoseconds from the start of 1970 in universal time. An instant later than the year 9999
has no date that a certificate can hold; `add?` refuses to go there.
-/

namespace NodePki

/-- A moment, in nanoseconds from the start of 1970. -/
structure Instant where
  nanos : Int
  deriving DecidableEq, Repr, Inhabited

namespace Instant

/-- The last nanosecond of the year 9999. -/
def latest : Instant := ⟨253402300799999999999⟩

/-- The moment a whole number of seconds after the start of 1970. -/
def ofSeconds (n : Int) : Instant := ⟨n * 1000000000⟩

/-- The whole seconds from the start of 1970. -/
def seconds (t : Instant) : Int := t.nanos / 1000000000

/-- The moment a span earlier. -/
def sub (t : Instant) (d : Duration) : Instant := ⟨t.nanos - d.nanos⟩

/-- The moment a span later, unless that is past `latest`. -/
def add? (t : Instant) (d : Duration) : Option Instant :=
  if t.nanos + d.nanos ≤ latest.nanos then some ⟨t.nanos + d.nanos⟩ else none

/-- The date and the time of day, in hours, minutes and seconds. -/
def civil (t : Instant) : Date × Nat × Nat × Nat :=
  let s := t.seconds
  let inDay := (s % 86400).toNat
  (Date.ofDays (s / 86400), inDay / 3600, inDay / 60 % 60, inDay % 60)

theorem add?_eq_some {t u : Instant} {d : Duration} :
    t.add? d = some u ↔ u.nanos = t.nanos + d.nanos ∧ u.nanos ≤ latest.nanos := by
  obtain ⟨u⟩ := u
  simp only [add?, Option.ite_none_right_eq_some, Option.some.injEq, mk.injEq]
  constructor
  · rintro ⟨h, rfl⟩; exact ⟨rfl, h⟩
  · rintro ⟨rfl, h⟩; exact ⟨h, rfl⟩

end Instant

end NodePki
