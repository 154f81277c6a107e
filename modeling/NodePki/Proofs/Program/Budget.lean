import NodePki.Proofs.Program.Course

/-!
# Calls that begin late

Whether the timeout has gone by is asked after a call that failed, before the sleep, and not again
after it. So a retried operation may be called when the timeout has gone by already, and what that call
comes to is the answer: the timeout is kept only if there is none, or no wait (`keepsBudget_iff`). It is
overrun by one call at most, which begins less than one wait after the timeout (`overrunsOnce`).
-/

namespace NodePki

open RetryPolicy (call)

/-- When a call began. -/
def Deed.began? : Deed → Option Nat
  | .call began => some began
  | .sleep _ => none

/-- When the calls began, first one first. -/
def ExactMachine.callTimes (m : ExactMachine) : List Nat := m.deeds.filterMap Deed.began?

namespace Course

section Timetable

variable {ε α : Type} {course : Course ε α} {policy : RetryPolicy} {start n k patience : Nat}

theorem callTimes_rounds : (course.rounds policy start n).filterMap Deed.began? =
    (List.range n).map fun k => start + course.beginsAt policy k := by
  rw [rounds, List.filterMap_flatMap, List.map_eq_flatMap]
  rfl

theorem beginsAt_succ (k : Nat) :
    course.beginsAt policy (k + 1) = course.endsAt policy k + policy.interval.nanos := rfl

theorem beginsAt_le_endsAt (k : Nat) : course.beginsAt policy k ≤ course.endsAt policy k :=
  Nat.le_add_right _ _

/-- A call that does not settle the matter ends in time. -/
theorem endsAt_lt (h : ¬ course.Settles policy k) :
    course.endsAt policy k < policy.timeout.nanos :=
  Nat.lt_of_not_le fun late => h (.inr late)

/-- With a wait between calls there are attempts enough. -/
theorem settles_of_spent (hinterval : 0 < policy.interval.nanos)
    (h : course.Settles policy n ∨ n = policy.moreAttempts patience ∧ ¬ course.Settles policy n) :
    course.Settles policy n := by
  obtain settles | ⟨spent, not_settles⟩ := h
  · exact settles
  · rw [spent, moreAttempts_eq hinterval] at not_settles
    exact absurd (settles_ceilDiv hinterval) not_settles

end Timetable

variable {ε α : Type} [ToString ε] (course : Course ε α) (policy : RetryPolicy) (patience start : Nat)

/-- What retrying on the machine comes to, and the machine after it. -/
abbrev retried : Except ε α × ExactMachine :=
  course.run (.atStart start) (policy.untilSuccess call patience)

/-- Retrying keeps to the timeout. -/
structure KeepsBudget : Prop where
  /-- No call but the first begins when the timeout has gone by. -/
  begins : ∀ began ∈ (course.retried policy patience start).2.callTimes.tail,
    began < start + policy.timeout.nanos
  /-- If the timeout has gone by when the call after one that failed would begin, the error of that one
  is the answer. -/
  answers : ∀ k e, k < (course.retried policy patience start).2.calls → course.outcome k = .error e →
    policy.timeout.nanos ≤ course.beginsAt policy (k + 1) →
      (course.retried policy patience start).1 = .error e

/-- Retrying overruns the timeout by one call at most. -/
structure OverrunsOnce : Prop where
  /-- A call begins one wait after the end of the one before it. -/
  times : (course.retried policy patience start).2.callTimes =
    (List.range (course.retried policy patience start).2.calls).map fun k =>
      start + course.beginsAt policy k
  /-- No call begins a whole wait after the timeout. -/
  near : ∀ k, k + 1 < (course.retried policy patience start).2.calls →
    course.beginsAt policy (k + 1) < policy.timeout.nanos + policy.interval.nanos
  /-- A call that begins when the timeout has gone by is the last one. -/
  last : ∀ k, k + 1 < (course.retried policy patience start).2.calls →
    policy.timeout.nanos ≤ course.beginsAt policy (k + 1) →
      k + 2 = (course.retried policy patience start).2.calls
  /-- The answer is what the last call comes to. -/
  answer : (course.retried policy patience start).1 =
    course.outcome ((course.retried policy patience start).2.calls - 1)
  /-- If there is a wait between calls, the last one succeeds, or ends when the timeout has gone by. -/
  settled : 0 < policy.interval.nanos →
    course.Settles policy ((course.retried policy patience start).2.calls - 1)

variable {course policy patience start}

/-- The calls of a run: none before the last settles the matter, and the last one does if there is a
wait between calls. -/
theorem exists_calls (course : Course ε α) (policy : RetryPolicy) (patience start : Nat) :
    ∃ n, (∀ k < n, ¬ course.Settles policy k) ∧
      (course.Settles policy n ∨ n = policy.moreAttempts patience ∧ ¬ course.Settles policy n) ∧
      (course.retried policy patience start).1 = course.outcome n ∧
      (course.retried policy patience start).2.calls = n + 1 ∧
      (course.retried policy patience start).2.callTimes =
        (List.range (n + 1)).map fun k => start + course.beginsAt policy k := by
  obtain ⟨n, first, ⟨settles, run⟩ | ⟨spent, not_settles, run⟩⟩ :=
    course.exists_run policy patience start
  · refine ⟨n, first, .inl settles, congrArg Prod.fst run, by rw [retried, run]; rfl, ?_⟩
    rw [retried, run, ExactMachine.callTimes, after, List.filterMap_append, callTimes_rounds,
      List.range_succ, List.map_append]
    rfl
  · refine ⟨n, first, .inr ⟨spent, not_settles⟩, congrArg Prod.fst run, by rw [retried, run]; rfl, ?_⟩
    rw [retried, run]
    exact callTimes_rounds

/-- Without a timeout or without a wait the timeout is kept. -/
theorem keepsBudget (h : policy.timeout.nanos = 0 ∨ policy.interval.nanos = 0) :
    course.KeepsBudget policy patience start := by
  obtain ⟨n, first, -, answer, calls, times⟩ := course.exists_calls policy patience start
  have early : ∀ k < n, course.beginsAt policy (k + 1) < policy.timeout.nanos := by
    intro k hk
    have hends := endsAt_lt (first k hk)
    rw [beginsAt_succ]
    omega
  constructor
  · intro began hbegan
    rw [times, List.range_succ_eq_map, List.map_cons, List.tail_cons, List.map_map] at hbegan
    obtain ⟨k, hk, rfl⟩ := List.mem_map.1 hbegan
    exact Nat.add_lt_add_left (early k (List.mem_range.1 hk)) start
  · intro k e hk hfailed late
    rw [calls] at hk
    obtain rfl | hlt := Nat.eq_or_lt_of_le (Nat.le_of_lt_succ hk)
    · rw [answer, hfailed]
    · exact absurd late (Nat.not_le_of_lt (early k hlt))

theorem overrunsOnce (course : Course ε α) (policy : RetryPolicy) (patience start : Nat) :
    course.OverrunsOnce policy patience start := by
  obtain ⟨n, first, settled, answer, calls, times⟩ := course.exists_calls policy patience start
  constructor
  · rw [times, calls]
  · intro k hk
    rw [calls] at hk
    rw [beginsAt_succ]
    exact Nat.add_lt_add_right (endsAt_lt (first k (Nat.lt_of_succ_lt_succ hk))) _
  · intro k hk late
    rw [calls] at hk ⊢
    by_contra hmore
    -- a call that is not the last one ends in time, so it begins in time
    have hends := endsAt_lt (first (k + 1) (by omega))
    exact absurd (Nat.le_trans late (beginsAt_le_endsAt _)) (Nat.not_le_of_lt hends)
  · rw [answer, calls, Nat.add_sub_cancel]
  · intro hinterval
    rw [calls, Nat.add_sub_cancel]
    exact settles_of_spent hinterval settled

end Course

namespace RetryPolicy

/-- Whatever calls come to and however long they take, the timeout is kept. -/
def KeepsBudget (policy : RetryPolicy) (patience : Nat) : Prop :=
  ∀ (ε α : Type) [ToString ε] (course : Course ε α) (start : Nat),
    course.KeepsBudget policy patience start

/-- A first call that fails one nanosecond before the timeout, and others that succeed. -/
def closeCall (policy : RetryPolicy) : Course String Unit :=
  ⟨fun k => if k = 0 then .error "unavailable" else .ok (),
    fun k => if k = 0 then ⟨policy.timeout.nanos - 1⟩ else ⟨0⟩⟩

theorem not_settles_closeCall {policy : RetryPolicy} (h : 0 < policy.timeout.nanos) :
    ¬ policy.closeCall.Settles policy 0 := by
  rintro (hok | late)
  · cases hok
  · have hends : policy.closeCall.endsAt policy 0 = 0 + (policy.timeout.nanos - 1) := rfl
    omega

theorem not_keepsBudget_closeCall {policy : RetryPolicy} (htimeout : 0 < policy.timeout.nanos)
    (hinterval : 0 < policy.interval.nanos) (patience : Nat) :
    ¬ policy.closeCall.KeepsBudget policy patience 0 := by
  intro keeps
  obtain ⟨n, first, settled, -, -, times⟩ := policy.closeCall.exists_calls policy patience 0
  have hpositive : n ≠ 0 := by
    rintro rfl
    exact not_settles_closeCall htimeout (Course.settles_of_spent hinterval settled)
  obtain ⟨n, rfl⟩ := Nat.exists_eq_succ_of_ne_zero hpositive
  have hbegins : policy.closeCall.beginsAt policy 1 =
    0 + (policy.timeout.nanos - 1) + policy.interval.nanos := rfl
  have hlt := keeps.begins (0 + policy.closeCall.beginsAt policy 1) (by
    rw [times, List.range_succ_eq_map, List.map_cons, List.tail_cons, List.map_map]
    exact List.mem_map.2 ⟨0, List.mem_range.2 (Nat.succ_pos n), rfl⟩)
  omega

/-- The timeout is kept by all runs exactly if there is no timeout or no wait between calls; and every
run overruns it by one call at most. -/
theorem keepsBudget_iff (policy : RetryPolicy) (patience : Nat) :
    (policy.KeepsBudget patience ↔ policy.timeout.nanos = 0 ∨ policy.interval.nanos = 0) ∧
      ∀ (ε α : Type) [ToString ε] (course : Course ε α) (start : Nat),
        course.OverrunsOnce policy patience start := by
  refine ⟨⟨fun keeps => ?_, fun h ε α _ course start => Course.keepsBudget h⟩,
    fun ε α _ course start => course.overrunsOnce policy patience start⟩
  by_contra hneither
  obtain ⟨htimeout, hinterval⟩ := not_or.1 hneither
  exact not_keepsBudget_closeCall (Nat.pos_of_ne_zero htimeout) (Nat.pos_of_ne_zero hinterval)
    patience (keeps String Unit policy.closeCall 0)

/-- A wait of two seconds in a timeout of one: the second call begins after two seconds, and what it
comes to is the answer. -/
theorem not_keepsBudget_long_wait :
    let policy : RetryPolicy := { timeout := .ofSeconds 1, interval := .ofSeconds 2 }
    let course : Course String String :=
      ⟨fun k => if k = 0 then .error "unavailable" else .ok "late", fun _ => ⟨0⟩⟩
    course.retried policy UInt64.size 0 =
      (.ok "late", ⟨2000000000, 2, [.call 0, .sleep (.ofSeconds 2), .call 2000000000]⟩) ∧
      ¬ policy.KeepsBudget UInt64.size := by
  intro policy course
  have run : course.retried policy UInt64.size 0 =
    (.ok "late", ⟨2000000000, 2, [.call 0, .sleep (.ofSeconds 2), .call 2000000000]⟩) := by
    decide +kernel
  refine ⟨run, fun keeps => ?_⟩
  have hbegins := (keeps String String course 0).begins 2000000000 (by rw [run]; decide)
  exact absurd hbegins (by decide)

end RetryPolicy

end NodePki
