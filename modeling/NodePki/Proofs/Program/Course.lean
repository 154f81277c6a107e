import Mathlib.Algebra.Order.Floor.Div
import NodePki.Proofs.Program.Retry

/-!
# Retrying on an exact clock

All that a retried program knows of its operation is what the calls come to, and when. So any operation
can be put in place of a single question, a call (`untilSuccess_eq_interpret`), and a `Course` says of
each call what it comes to and how long it takes. On a machine on which calls and sleeps take just the
time that they are to take, and nothing else takes any, it is then settled what happens:

* `exists_run_attempts`: the calls up to the first that settles the matter are made, each but the last
  followed by one sleep, unless there are too few attempts for it;
* `IsLast.le_moreAttempts`: there are not, if there is a wait between attempts;
* `untilSuccess_course`: what retrying comes to, how often it calls, and when.
-/

namespace NodePki

/-- An operation that can be called, and nothing else that could be asked. -/
@[reducible] def Calls (ε α : Type) : Signature where
  Op := Unit
  Answer _ := Except ε α

/-- What the calls of an operation, counted from zero, come to and how long they take. -/
structure Course (ε α : Type) where
  outcome : Nat → Except ε α
  span : Nat → Duration

/-- What takes time: a call, with the nanosecond at which it began, or a sleep. -/
inductive Deed
  | call (began : Nat)
  | sleep (span : Duration)
  deriving DecidableEq

/-- A machine with an exact clock. -/
structure ExactMachine where
  /-- What the clock shows, in nanoseconds. -/
  now : Nat
  /-- How many calls there were. -/
  calls : Nat
  /-- What was done, first thing first. -/
  deeds : List Deed
  deriving DecidableEq

namespace ExactMachine

/-- The machine before anything is done. -/
def atStart (now : Nat) : ExactMachine := ⟨now, 0, []⟩

/-- A call goes by. -/
def call (m : ExactMachine) (span : Duration) : ExactMachine :=
  ⟨m.now + span.nanos, m.calls + 1, m.deeds ++ [.call m.now]⟩

/-- A sleep goes by. -/
def sleep (m : ExactMachine) (span : Duration) : ExactMachine :=
  ⟨m.now + span.nanos, m.calls, m.deeds ++ [.sleep span]⟩

end ExactMachine

/-- The parts of an interpreted program. -/
theorem Program.interpret_bind {σ τ : Signature} {α β : Type}
    {handle : (op : σ.Op) → Program τ (σ.Answer op)} (p : Program σ α) (f : α → Program σ β) :
    (p.bind f).interpret handle = (p.interpret handle).bind fun a => (f a).interpret handle := by
  induction p with
  | done a => rfl
  | ask op next ih =>
    show (handle op).bind _ = ((handle op).bind _).bind _
    rw [bind_assoc]
    exact congrArg _ (funext ih)

namespace RetryPolicy

variable {σ : Signature} {ε α β : Type}

/-- The operation that is one call. -/
def call : Program ((Calls ε α).sum Surroundings) (Except ε α) := (Program.perform (Calls ε α) ()).left

/-- Calls are answered by an operation, and all else as before. -/
def answeredBy (operation : Program (σ.sum Surroundings) (Except ε α)) :
    (op : ((Calls ε α).sum Surroundings).Op) →
      Program (σ.sum Surroundings) (((Calls ε α).sum Surroundings).Answer op)
  | .inl () => operation
  | .inr op => aside (Program.perform Surroundings op)

section Operation

variable [ToString ε] (policy : RetryPolicy) (started : Duration)
  (operation : Program (σ.sum Surroundings) (Except ε α))

omit [ToString ε] in
theorem interpret_aside (p : Program Surroundings β) :
    (aside p : Program ((Calls ε α).sum Surroundings) β).interpret (answeredBy operation) =
      aside p := by
  induction p with
  | done b => rfl
  | ask op next ih =>
    have hrest : (fun answer => (aside (next answer)).interpret (answeredBy operation)) =
        fun answer => aside (next answer) := funext ih
    exact congrArg (Program.ask (σ := σ.sum Surroundings) (Sum.inr op)) hrest

omit [ToString ε] in
/-- One attempt, and what is done after its failure. -/
theorem interpret_attempt {failed : ε → Program (σ.sum Surroundings) (Except ε α)}
    {failed' : ε → Program ((Calls ε α).sum Surroundings) (Except ε α)}
    (hfailed : ∀ e, failed e = (failed' e).interpret (answeredBy operation)) :
    (operation >>= fun r => match r with
      | .ok value => pure (.ok value)
      | .error e => failed e) =
    (call >>= fun r => match r with
      | .ok value => pure (.ok value)
      | .error e => failed' e : Program ((Calls ε α).sum Surroundings) (Except ε α)).interpret
        (answeredBy operation) := by
  have hcall : call.interpret (answeredBy operation) = operation := Program.bind_done operation
  rw [Program.bind_eq, Program.bind_eq, Program.interpret_bind, hcall]
  refine congrArg _ (funext fun r => ?_)
  cases r with
  | ok value => rfl
  | error e => exact hfailed e

theorem attempts_eq_interpret (more : Nat) (number : UInt32) :
    policy.attempts started operation more number =
      (policy.attempts started call more number).interpret (answeredBy operation) := by
  induction more generalizing number with
  | zero =>
    rw [attempts, attempts]
    refine interpret_attempt operation fun e => ?_
    simp only [Program.bind_eq, Program.interpret_bind, interpret_aside]
    refine congrArg _ (funext fun now => ?_)
    split <;> rfl
  | succ more ih =>
    rw [attempts, attempts]
    refine interpret_attempt operation fun e => ?_
    simp only [Program.bind_eq, Program.interpret_bind, interpret_aside]
    refine congrArg _ (funext fun now => ?_)
    split
    · rfl
    · simp only [ih, Program.interpret_bind, interpret_aside]

/-- A retried program does nothing with its operation but to call it. -/
theorem untilSuccess_eq_interpret (patience : Nat) :
    policy.untilSuccess operation patience =
      (policy.untilSuccess call patience).interpret (answeredBy operation) := by
  rw [untilSuccess, untilSuccess, Program.bind_eq, Program.bind_eq, Program.interpret_bind,
    interpret_aside]
  exact congrArg _ (funext fun started => policy.attempts_eq_interpret started operation _ 1)

end Operation

end RetryPolicy

namespace Course

open RetryPolicy (call)

variable {ε α β γ : Type} (course : Course ε α)

/-! ### Runs on the machine -/

/-- What the machine answers. The time of day and random octets are of no matter here. -/
def answer (m : ExactMachine) : (op : ((Calls ε α).sum Surroundings).Op) →
    ((Calls ε α).sum Surroundings).Answer op × ExactMachine
  | .inl () => (course.outcome m.calls, m.call (course.span m.calls))
  | .inr (.report _) => ((), m)
  | .inr .now => (⟨0⟩, m)
  | .inr .uptime => (⟨m.now⟩, m)
  | .inr (.sleep span) => ((), m.sleep span)
  | .inr (.random count) => (Vector.replicate count 0, m)

/-- What a program comes to on the machine, and how it leaves the machine. -/
def run (m : ExactMachine) (p : Program ((Calls ε α).sum Surroundings) β) : β × ExactMachine :=
  Id.run ((p.interpret fun op => (modifyGet (course.answer · op) : StateM ExactMachine _)).run m)

theorem run_bind (m : ExactMachine) (p : Program ((Calls ε α).sum Surroundings) β)
    (f : β → Program ((Calls ε α).sum Surroundings) γ) :
    course.run m (p.bind f) = course.run (course.run m p).2 (f (course.run m p).1) := by
  induction p generalizing m with
  | done b => rfl
  | ask op next ih => exact ih _ _

/-! ### The timetable -/

variable (policy : RetryPolicy)

/-- When a call begins, in nanoseconds from the beginning of the first, if a sleep follows each before
it. -/
def beginsAt : Nat → Nat
  | 0 => 0
  | k + 1 => beginsAt k + (course.span k).nanos + policy.interval.nanos

/-- When a call ends, in nanoseconds from the beginning of the first. -/
def endsAt (k : Nat) : Nat := course.beginsAt policy k + (course.span k).nanos

/-- A call settles the matter: it succeeds, or ends when the timeout has gone by. -/
def Settles (k : Nat) : Prop :=
  (course.outcome k).isOk ∨ policy.timeout.nanos ≤ course.endsAt policy k

instance (k : Nat) : Decidable (course.Settles policy k) :=
  inferInstanceAs (Decidable (_ ∨ _))

/-- The call is the first one that settles the matter. -/
structure IsLast (n : Nat) : Prop where
  settles : course.Settles policy n
  first : ∀ k < n, ¬ course.Settles policy k

/-- What is done before the call with a number, if the first begins at `start`: each call is followed
by one sleep. -/
def rounds (start n : Nat) : List Deed :=
  (List.range n).flatMap fun k =>
    [.call (start + course.beginsAt policy k), .sleep policy.interval]

/-- The machine before the call with a number. -/
def before (start n : Nat) : ExactMachine :=
  ⟨start + course.beginsAt policy n, n, course.rounds policy start n⟩

/-- The machine after the call with a number. -/
def after (start n : Nat) : ExactMachine :=
  ⟨start + course.endsAt policy n, n + 1,
    course.rounds policy start n ++ [.call (start + course.beginsAt policy n)]⟩

variable {course policy} {start n k patience : Nat}

theorem call_before : (course.before policy start n).call (course.span n) =
    course.after policy start n := by
  rw [ExactMachine.call, after, endsAt, ← Nat.add_assoc]
  rfl

theorem sleep_after : (course.after policy start n).sleep policy.interval =
    course.before policy start (n + 1) := by
  rw [ExactMachine.sleep, before, rounds, List.range_succ, List.flatMap_append, List.flatMap_singleton,
    beginsAt, ← endsAt, ← Nat.add_assoc, after, List.append_assoc]
  rfl

theorem mul_interval_le_beginsAt (k : Nat) : k * policy.interval.nanos ≤ course.beginsAt policy k := by
  induction k with
  | zero => exact Nat.le_of_eq (Nat.zero_mul _)
  | succ k ih =>
    rw [beginsAt, Nat.succ_mul]
    omega

/-- As many sleeps as fit into the timeout take it all. -/
theorem settles_ceilDiv (h : 0 < policy.interval.nanos) :
    course.Settles policy (policy.timeout.nanos ⌈/⌉ policy.interval.nanos) := by
  refine .inr (Nat.le_trans ?_ (Nat.le_add_right _ _))
  calc policy.timeout.nanos
      ≤ policy.interval.nanos * (policy.timeout.nanos ⌈/⌉ policy.interval.nanos) :=
        le_smul_ceilDiv h
    _ = (policy.timeout.nanos ⌈/⌉ policy.interval.nanos) * policy.interval.nanos := Nat.mul_comm _ _
    _ ≤ course.beginsAt policy _ := mul_interval_le_beginsAt _

theorem IsLast.le_of_settles (h : course.IsLast policy n) (hk : course.Settles policy k) : n ≤ k :=
  Nat.le_of_not_lt fun hlt => h.first k hlt hk

theorem moreAttempts_eq (h : 0 < policy.interval.nanos) :
    policy.moreAttempts patience = policy.timeout.nanos ⌈/⌉ policy.interval.nanos := by
  rw [RetryPolicy.moreAttempts, if_neg (Nat.ne_of_gt h), Nat.ceilDiv_eq_add_pred_div]

/-- There are enough attempts for the last call. -/
theorem IsLast.le_moreAttempts (h : course.IsLast policy n)
    (patient : policy.interval.nanos = 0 → n ≤ patience) : n ≤ policy.moreAttempts patience := by
  by_cases hzero : policy.interval.nanos = 0
  · rw [RetryPolicy.moreAttempts, if_pos hzero]
    exact patient hzero
  · have hpositive := Nat.pos_of_ne_zero hzero
    rw [moreAttempts_eq hpositive]
    exact h.le_of_settles (settles_ceilDiv hpositive)

/-- If there is a wait between calls, one of the first calls settles the matter. -/
theorem exists_isLast (h : 0 < policy.interval.nanos) :
    ∃ n, course.IsLast policy n ∧ n ≤ policy.timeout.nanos ⌈/⌉ policy.interval.nanos := by
  have hex : ∃ n, course.Settles policy n := ⟨_, settles_ceilDiv h⟩
  exact ⟨Nat.find hex, ⟨Nat.find_spec hex, fun k hk => Nat.find_min hex hk⟩,
    Nat.find_min' hex (settles_ceilDiv h)⟩

/-! ### Attempts on the timetable -/

variable [ToString ε] {more : Nat} {number : UInt32}

/-- An attempt makes a call, and looks at the clock if that fails. -/
theorem run_attempts (start k : Nat) (more : Nat) (number : UInt32) :
    course.run (course.before policy start k) (policy.attempts ⟨start⟩ call more number) =
      match course.outcome k with
      | .ok a => (.ok a, course.after policy start k)
      | .error e =>
        if policy.timeout.nanos ≤ course.endsAt policy k then (.error e, course.after policy start k)
        else
          match more with
          | 0 => (.error e, course.before policy start (k + 1))
          | more + 1 => course.run (course.before policy start (k + 1))
              (policy.attempts ⟨start⟩ call more (number + 1)) := by
  have hcall : course.run (course.before policy start k) call =
    (course.outcome k, course.after policy start k) := Prod.ext rfl call_before
  rw [RetryPolicy.attempts.eq_def]
  refine (run_bind course _ call _).trans ?_
  rw [hcall]
  dsimp only
  cases course.outcome k with
  | ok a => rfl
  | error e =>
    dsimp only
    refine (run_bind course _ (RetryPolicy.aside Surroundings.uptime) _).trans ?_
    have helapsed : start + course.endsAt policy k - start = course.endsAt policy k :=
      Nat.add_sub_cancel_left ..
    show course.run (course.after policy start k)
      (if policy.timeout.nanos ≤ start + course.endsAt policy k - start then _ else _) = _
    rw [helapsed]
    split
    · rfl
    · rw [← sleep_after]
      cases more <;> rfl

theorem run_attempts_of_settles (h : course.Settles policy k) :
    course.run (course.before policy start k) (policy.attempts ⟨start⟩ call more number) =
      (course.outcome k, course.after policy start k) := by
  rw [run_attempts]
  cases houtcome : course.outcome k with
  | ok a => rfl
  | error e =>
    obtain hok | late := h
    · rw [houtcome] at hok
      cases hok
    · exact if_pos late

theorem run_attempts_of_not_settles (h : ¬ course.Settles policy k) :
    course.run (course.before policy start k) (policy.attempts ⟨start⟩ call more number) =
      match more with
      | 0 => (course.outcome k, course.before policy start (k + 1))
      | more + 1 => course.run (course.before policy start (k + 1))
          (policy.attempts ⟨start⟩ call more (number + 1)) := by
  rw [run_attempts]
  cases houtcome : course.outcome k with
  | ok a => exact absurd (.inl (houtcome ▸ rfl)) h
  | error e => exact if_neg fun late => h (.inr late)

/-- Attempts from one call on are made up to the first that settles the matter, or to the last that
there is. -/
theorem exists_run_attempts (policy : RetryPolicy) (start k more : Nat) (number : UInt32) :
    ∃ n, n ≤ k + more ∧ (∀ j, k ≤ j → j < n → ¬ course.Settles policy j) ∧
      (course.Settles policy n ∧
          course.run (course.before policy start k) (policy.attempts ⟨start⟩ call more number) =
            (course.outcome n, course.after policy start n) ∨
        ¬ course.Settles policy n ∧ n = k + more ∧
          course.run (course.before policy start k) (policy.attempts ⟨start⟩ call more number) =
            (course.outcome n, course.before policy start (n + 1))) := by
  -- by how many attempts are left, whichever call is next
  induction more generalizing k number with
  | zero =>
    refine ⟨k, Nat.le_refl k, fun j hk hj => absurd hj (Nat.not_lt_of_le hk), ?_⟩
    by_cases h : course.Settles policy k
    · exact .inl ⟨h, run_attempts_of_settles h⟩
    · exact .inr ⟨h, rfl, run_attempts_of_not_settles h⟩
  | succ more ih =>
    by_cases h : course.Settles policy k
    · exact ⟨k, Nat.le_add_right _ _, fun j hk hj => absurd hj (Nat.not_lt_of_le hk),
        .inl ⟨h, run_attempts_of_settles h⟩⟩
    · obtain ⟨n, hle, hfirst, hrun⟩ := ih (k + 1) (number + 1)
      rw [run_attempts_of_not_settles h]
      refine ⟨n, by omega, fun j hk hj => ?_, ?_⟩
      · rcases Nat.eq_or_lt_of_le hk with rfl | hk
        · exact h
        · exact hfirst j hk hj
      · rwa [show k + (more + 1) = k + 1 + more by omega]

theorem run_untilSuccess (start : Nat) :
    course.run (.atStart start) (policy.untilSuccess call patience) =
      course.run (course.before policy start 0)
        (policy.attempts ⟨start⟩ call (policy.moreAttempts patience) 1) := rfl

/-- Retrying makes calls up to one, before which none settles the matter. -/
theorem exists_run (course : Course ε α) (policy : RetryPolicy) (patience start : Nat) :
    ∃ n, (∀ k < n, ¬ course.Settles policy k) ∧
      (course.Settles policy n ∧ course.run (.atStart start) (policy.untilSuccess call patience) =
          (course.outcome n, course.after policy start n) ∨
        n = policy.moreAttempts patience ∧ ¬ course.Settles policy n ∧
          course.run (.atStart start) (policy.untilSuccess call patience) =
            (course.outcome n, course.before policy start (n + 1))) := by
  obtain ⟨n, -, hfirst, hrun⟩ :=
    course.exists_run_attempts policy start 0 (policy.moreAttempts patience) 1
  rw [run_untilSuccess]
  rw [Nat.zero_add] at hrun
  exact ⟨n, fun k hk => hfirst k (Nat.zero_le k) hk,
    hrun.imp_right fun ⟨hnot, hn, h⟩ => ⟨hn, hnot, h⟩⟩

/-- Retrying an operation calls it up to and including the first call that succeeds or ends when the
timeout has gone by, and comes to what this call comes to. Each call before it is followed by one
sleep. If there is a wait between calls there is such a call, and it is one of those between which as
many waits lie as fit into the timeout. (If there is none, the patience is to last for so many calls.
How much there is of it is of no matter otherwise.) -/
theorem untilSuccess_course (policy : RetryPolicy) (course : Course ε α) (patience start : Nat) :
    (∀ {σ : Signature} (operation : Program (σ.sum Surroundings) (Except ε α)),
      policy.untilSuccess operation patience =
        (policy.untilSuccess call patience).interpret (RetryPolicy.answeredBy operation)) ∧
    (∀ n, course.IsLast policy n → (policy.interval.nanos = 0 → n ≤ patience) →
      course.run (.atStart start) (policy.untilSuccess call patience) =
        (course.outcome n, course.after policy start n)) ∧
    (0 < policy.interval.nanos →
      ∃ n, course.IsLast policy n ∧
        n + 1 ≤ policy.timeout.nanos ⌈/⌉ policy.interval.nanos + 1) := by
  refine ⟨fun operation => policy.untilSuccess_eq_interpret operation patience, ?_,
    fun hinterval => ?_⟩
  · intro n last patient
    obtain ⟨m, hfirst, ⟨settles, hrun⟩ | ⟨hm, hnot, -⟩⟩ :=
      course.exists_run policy patience start
    · have hle := last.le_of_settles settles
      obtain rfl | hlt := Nat.eq_or_lt_of_le hle
      · exact hrun
      · exact absurd last.settles (hfirst n hlt)
    · have hle : n ≤ m := hm ▸ last.le_moreAttempts patient
      obtain rfl | hlt := Nat.eq_or_lt_of_le hle
      · exact absurd last.settles hnot
      · exact absurd last.settles (hfirst n hlt)
  · obtain ⟨n, last, hle⟩ := course.exists_isLast hinterval
    exact ⟨n, last, Nat.succ_le_succ hle⟩

/-- Three calls, of which the last begins when the timeout has gone by, and succeeds. Without a wait, of
the same calls the third ends when the timeout has gone by, if it fails. -/
theorem untilSuccess_course_late_success :
    let policy : RetryPolicy := { timeout := ⟨10⟩, interval := ⟨4⟩ }
    let restless : RetryPolicy := { timeout := ⟨10⟩, interval := ⟨0⟩ }
    let course : Course String Nat :=
      ⟨fun k => if k < 2 then .error "unavailable" else .ok k, fun k => ⟨[3, 2, 9].getD k 0⟩⟩
    let failing : Course String Nat := ⟨fun _ => .error "unavailable", course.span⟩
    course.IsLast policy 2 ∧ (policy.interval.nanos = 0 → 2 ≤ UInt64.size) ∧
      course.run (.atStart 100) (policy.untilSuccess call) =
        (.ok 2, ⟨122, 3, [.call 100, .sleep ⟨4⟩, .call 107, .sleep ⟨4⟩, .call 113]⟩) ∧
      0 < policy.interval.nanos ∧
      (∃ n, course.IsLast policy n ∧
        n + 1 ≤ policy.timeout.nanos ⌈/⌉ policy.interval.nanos + 1) ∧
      failing.IsLast restless 2 ∧ restless.interval.nanos = 0 ∧
      ∀ patience, 2 ≤ patience →
        failing.run (.atStart 100) (restless.untilSuccess call patience) =
          (.error "unavailable",
            ⟨114, 3, [.call 100, .sleep ⟨0⟩, .call 103, .sleep ⟨0⟩, .call 105]⟩) := by
  intro policy restless course failing
  have last : course.IsLast policy 2 := ⟨by decide, by decide⟩
  have patient : policy.interval.nanos = 0 → 2 ≤ UInt64.size := fun hzero => nomatch hzero
  have hpositive : 0 < policy.interval.nanos := by decide
  have restlessLast : failing.IsLast restless 2 := ⟨by decide, by decide⟩
  obtain ⟨-, run, exists_last⟩ := untilSuccess_course policy course UInt64.size 100
  refine ⟨last, patient, run 2 last patient, hpositive, exists_last hpositive, restlessLast, rfl, ?_⟩
  intro patience enough
  obtain ⟨-, restlessRun, -⟩ := untilSuccess_course restless failing patience 100
  exact restlessRun 2 restlessLast fun _ => enough

end Course

end NodePki
