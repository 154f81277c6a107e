import NodePki.Retry
import NodePki.Proofs.Program.Run

/-!
# Retried programs

A success of `RetryPolicy.untilSuccess` is the success of one attempt, at the end of the run:
nothing is done after it. So what every success of an attempt is preceded by, every success of the
whole is preceded by, whatever the clock says and however many attempts failed before. The rules for
`Leads` say how one run goes on after an attempt.
-/

namespace NodePki.RetryPolicy

open Program

variable {σ : Signature} {ε α : Type} {operation : Program (σ.sum Surroundings) (Except ε α)}
  {Success : Trace (σ.sum Surroundings) → α → Prop} {t : Trace (σ.sum Surroundings)}

/-- Every success is preceded by what `Success` says. -/
abbrev Succeeds (Success : Trace (σ.sum Surroundings) → α → Prop)
    (t : Trace (σ.sum Surroundings)) (p : Program (σ.sum Surroundings) (Except ε α)) : Prop :=
  Along (fun _ _ => True) (fun t r => ∀ a, r = .ok a → Success t a) t p

theorem succeeds_error {e : ε} : Succeeds Success t (pure (.error e)) :=
  (along_done _).2 fun _ h => nomatch h

/-- What is asked of the machine between attempts is no success. -/
theorem succeeds_aside {β : Type} {p : Program Surroundings β}
    {f : β → Program (σ.sum Surroundings) (Except ε α)} (h : ∀ t b, Succeeds Success t (f b)) :
    Succeeds Success t (aside p >>= f) :=
  along_bind.2 (along_right (fun _ _ => trivial) fun _ b _ => h _ b)

/-- One attempt, and what is done after its failure. -/
theorem succeeds_attempt {failed : ε → Program (σ.sum Surroundings) (Except ε α)}
    (hoperation : Succeeds Success t operation) (hfailed : ∀ t e, Succeeds Success t (failed e)) :
    Succeeds Success t (operation >>= fun r => match r with
      | .ok value => pure (.ok value)
      | .error e => failed e) := by
  refine along_bind.2 (hoperation.mono (fun _ _ ask => ask) fun t r hr => ?_)
  cases r with
  | ok value => exact (along_done _).2 hr
  | error e => exact hfailed t e

variable [ToString ε]

/-- The event of an attempt that failed in time. -/
def retrying (number : UInt32) (e : ε) : Log.Event :=
  Log.Source.retry.event .debug "Attempt failed, retrying" [
    ("attempt", toString number), ("error", toString e)]

/-- The event of an attempt that failed late. -/
def givingUp (policy : RetryPolicy) (number : UInt32) (e : ε) : Log.Event :=
  Log.Source.retry.event .warn "Giving up after timeout" [
    ("attempt", toString number),
    ("timeout_secs", toString policy.timeout.seconds),
    ("error", toString e)]

/-- All attempts, whatever came before. -/
theorem succeeds_attempts (policy : RetryPolicy) (started : Duration)
    (hoperation : ∀ t, Succeeds Success t operation) (more : Nat) (number : UInt32)
    (t : Trace (σ.sum Surroundings)) :
    Succeeds Success t (policy.attempts started operation more number) := by
  induction more generalizing number t with
  | zero =>
    rw [attempts]
    refine succeeds_attempt (hoperation t) fun t e => succeeds_aside fun t now => ?_
    split
    · exact succeeds_aside fun _ _ => succeeds_error
    · exact succeeds_aside fun _ _ => succeeds_aside fun _ _ => succeeds_error
  | succ more ih =>
    rw [attempts]
    refine succeeds_attempt (hoperation t) fun t e => succeeds_aside fun t now => ?_
    split
    · exact succeeds_aside fun _ _ => succeeds_error
    · exact succeeds_aside fun _ _ => succeeds_aside fun t _ => ih (number + 1) t

/-- A success of the whole is one of an attempt. -/
theorem succeeds_untilSuccess (policy : RetryPolicy)
    (hoperation : ∀ t, Succeeds Success t operation) (patience : Nat) :
    Succeeds Success [] (policy.untilSuccess operation patience) :=
  succeeds_aside fun _ _ => succeeds_attempts policy _ hoperation _ _ _

section Leads

variable {u : Trace (σ.sum Surroundings)} {q : Program (σ.sum Surroundings) (Except ε α)}

omit [ToString ε] in
theorem leads_aside (op : Surroundings.Op) (answer : Surroundings.Answer op)
    {f : Surroundings.Answer op → Program (σ.sum Surroundings) (Except ε α)}
    (hf : Leads (f answer) t q) :
    Leads (aside (perform Surroundings op) >>= f) (⟨.inr op, answer⟩ :: t) q :=
  .ask hf

omit [ToString ε] in
/-- A run that begins with a question to the machine. -/
theorem exists_of_aside {op : Surroundings.Op} {r : Except ε α}
    {f : Surroundings.Answer op → Program (σ.sum Surroundings) (Except ε α)}
    (h : Leads (aside (perform Surroundings op) >>= f) t (.done r)) :
    ∃ answer u, t = ⟨.inr op, answer⟩ :: u ∧ Leads (f answer) u (.done r) := by
  cases h with
  | ask rest => exact ⟨_, _, rfl, rest⟩

omit [ToString ε] in
theorem leads_attempt {e : ε} {failed : ε → Program (σ.sum Surroundings) (Except ε α)}
    (hoperation : Leads operation t (.done (.error e))) (hfailed : Leads (failed e) u q) :
    Leads (operation >>= fun r => match r with
      | .ok value => pure (.ok value)
      | .error e => failed e) (t ++ u) q :=
  (hoperation.bind _).append hfailed

variable {policy : RetryPolicy} {more : Nat} {number : UInt32}

/-- An attempt that succeeds is the last one. -/
theorem leads_last {started : Duration} {a : α} (hoperation : Leads operation t (.done (.ok a))) :
    Leads (policy.attempts started operation more number) t (.done (.ok a)) := by
  cases more <;>
    (rw [attempts]; exact List.append_nil t ▸ (hoperation.bind _).append (.refl _))

/-- An attempt that fails in time is followed by another. -/
theorem leads_again {e : ε} (started now : Duration)
    (hoperation : Leads operation t (.done (.error e)))
    (early : now.nanos - started.nanos < policy.timeout.nanos)
    (hq : Leads (policy.attempts started operation more (number + 1)) u q) :
    Leads (policy.attempts started operation (more + 1) number)
      (t ++ ⟨.inr .uptime, now⟩ ::
        ⟨.inr (.report (retrying number e)), ()⟩ ::
        ⟨.inr (.sleep policy.interval), ()⟩ :: u) q := by
  rw [attempts]
  refine leads_attempt hoperation (leads_aside .uptime now ?_)
  rw [if_neg (by omega)]
  exact leads_aside (.report _) () (leads_aside (.sleep _) () hq)

/-- An attempt that fails late is the last one. -/
theorem leads_gaveUp {e : ε} (started now : Duration)
    (hoperation : Leads operation t (.done (.error e)))
    (late : policy.timeout.nanos ≤ now.nanos - started.nanos) :
    Leads (policy.attempts started operation more number)
      (t ++ [⟨.inr .uptime, now⟩,
        ⟨.inr (.report (policy.givingUp number e)), ()⟩]) (.done (.error e)) := by
  rw [attempts.eq_def]
  refine leads_attempt hoperation (leads_aside .uptime now ?_)
  rw [if_pos late]
  exact leads_aside (.report _) () (.refl _)

end Leads

end NodePki.RetryPolicy
