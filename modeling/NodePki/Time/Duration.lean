/-!
# Durations

Spans of time in nanoseconds, their parts and their text.
-/

namespace NodePki

/-- A span of time. -/
structure Duration where
  nanos : Nat
  deriving DecidableEq, Repr, Inhabited

namespace Duration

/-- The nanoseconds of a second. -/
def nanosPerSecond : Nat := 1000000000

/-- The greatest number of whole seconds that a configured span can have. -/
def maxSeconds : Nat := UInt64.size - 1

/-- A span of whole seconds. -/
def ofSeconds (n : Nat) : Duration := ⟨n * nanosPerSecond⟩

/-- A span of whole days; past `maxSeconds` it stays there. -/
def ofDays (n : Nat) : Duration := ofSeconds (min (n * 86400) maxSeconds)

/-- The empty span. -/
def zero : Duration := ⟨0⟩

/-- The whole seconds of a span. -/
def seconds (d : Duration) : Nat := d.nanos / nanosPerSecond

/-- The nanoseconds of a span beyond its whole seconds. -/
def subsecond (d : Duration) : Nat := d.nanos % nanosPerSecond

/-- The digits after the point of a number of `width` places, without zeros at the end. -/
def fraction (width n : Nat) : String :=
  if n = 0 then ""
  else
    let digits := (Nat.toDigits 10 n)
    let padded := List.replicate (width - digits.length) '0' ++ digits
    String.ofList ('.' :: (padded.reverse.dropWhile (· == '0')).reverse)

/-- A span in the largest of the units s, ms, µs and ns of which it has one. -/
def text (d : Duration) : String :=
  if 1000000000 ≤ d.nanos then s!"{d.seconds}{fraction 9 d.subsecond}s"
  else if 1000000 ≤ d.nanos then s!"{d.nanos / 1000000}{fraction 6 (d.nanos % 1000000)}ms"
  else if 1000 ≤ d.nanos then s!"{d.nanos / 1000}{fraction 3 (d.nanos % 1000)}µs"
  else s!"{d.nanos}ns"

instance : ToString Duration := ⟨text⟩

end Duration

end NodePki
