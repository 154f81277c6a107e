import NodePki.Program.Surroundings

/-!
# Bounded retry

An attempt is made again at a fixed interval until it succeeds or a span has gone by. The clock is
looked at after a failure only: an attempt that has begun is always finished, and the error of the
last one is the answer.
-/

namespace NodePki

/-- How long to go on trying, and how long to wait between attempts. -/
structure RetryPolicy where
  timeout : Duration
  interval : Duration
  deriving DecidableEq, Repr

namespace RetryPolicy

/-- How many attempts after the first can begin. With a wait between them this is how many waits
fit into the span, so that no clock gets there. Without one there may be any number of them, of which
so many are made as there is patience for. -/
def moreAttempts (p : RetryPolicy) (patience : Nat) : Nat :=
  if p.interval.nanos = 0 then patience
  else (p.timeout.nanos + p.interval.nanos - 1) / p.interval.nanos

variable {σ : Signature} {ε α : Type} [ToString ε]

/-- Does what only the machine is needed for. -/
def aside {α : Type} (p : Program Surroundings α) : Program (σ.sum Surroundings) α := p.right

/-- Makes the attempt with the given number, and at most `more` further ones. The number, which is
only reported, has 32 bits: it starts again from zero. A run that makes all of them in vain ends with a
sleep, and nothing is reported to be given up. -/
def attempts (policy : RetryPolicy) (started : Duration)
    (operation : Program (σ.sum Surroundings) (Except ε α)) :
    (more : Nat) → (number : UInt32) → Program (σ.sum Surroundings) (Except ε α)
  | more, number => do
    match ← operation with
    | .ok value => return .ok value
    | .error e =>
      let now ← aside Surroundings.uptime
      if policy.timeout.nanos ≤ now.nanos - started.nanos then
        aside <| Surroundings.report .retry .warn "Giving up after timeout" [
          ("attempt", toString number),
          ("timeout_secs", toString policy.timeout.seconds),
          ("error", toString e)]
        return .error e
      else
        aside <| Surroundings.report .retry .debug "Attempt failed, retrying" [
          ("attempt", toString number), ("error", toString e)]
        aside (Surroundings.sleep policy.interval)
        match more with
        | 0 => return .error e
        | more + 1 => attempts policy started operation more (number + 1)

/-- Makes an attempt until it succeeds or the span has gone by. The patience is no part of the policy:
without a wait it bounds how far the attempts are followed, and a run that does not use it up comes to
the same with more of it. -/
def untilSuccess (policy : RetryPolicy) (operation : Program (σ.sum Surroundings) (Except ε α))
    (patience : Nat := UInt64.size) : Program (σ.sum Surroundings) (Except ε α) := do
  let started ← aside Surroundings.uptime
  attempts policy started operation (policy.moreAttempts patience) 1

end RetryPolicy

end NodePki
