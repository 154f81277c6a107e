import NodePki.Proofs.Program.Interpret
import NodePki.Proofs.Program.Retry

/-!
# Attempts

Which attempts a retried program makes in a run, in which order, and how each went (`Tried`). Nothing
there bounds their number. That the program itself does not run out of attempts is a matter of the
clock (`Trace.KeepsTime`): every attempt that fails in time is followed by a sleep, and no more sleeps
fit into the timeout than there are attempts (`exists_tried`).

So a failed attempt is the last one exactly if it ended late (`Tried.untilLate`), and as many attempts
as there are, each as the relation says, are a run (`Tried.leads`). Whatever the clock shows, between
attempts only the machine is asked anything (`within_attempt`).
-/

namespace NodePki

/-- From the moment on when it shows `since` nanoseconds, the clock never goes back, and every sleep
takes its time. -/
def Trace.KeepsTime : Nat → Trace Surroundings → Prop
  | _, [] => True
  | since, ⟨.uptime, now⟩ :: t => since ≤ now.nanos ∧ KeepsTime now.nanos t
  | since, ⟨.sleep span, _⟩ :: t => KeepsTime (since + span.nanos) t
  | since, _ :: t => KeepsTime since t

namespace Trace

theorem KeepsTime.mono {since since' : Nat} {t : Trace Surroundings} (h : KeepsTime since t)
    (hle : since' ≤ since) : KeepsTime since' t := by
  induction t generalizing since since' with
  | nil => trivial
  | cons e t ih =>
    obtain ⟨_ | _ | _ | span | _, answer⟩ := e
    case uptime => exact ⟨Nat.le_trans hle h.1, h.2⟩
    case sleep => exact ih (show KeepsTime (since + span.nanos) t from h) (Nat.add_le_add_right hle _)
    all_goals exact ih (show KeepsTime since t from h) hle

/-- To look at less is to see less. -/
theorem KeepsTime.sublist {since : Nat} {t u : Trace Surroundings} (h : KeepsTime since t)
    (hu : u.Sublist t) : KeepsTime since u := by
  induction hu generalizing since with
  | slnil => trivial
  | @cons _ t e _ ih =>
    obtain ⟨_ | _ | _ | span | _, answer⟩ := e
    case uptime => exact ih (h.2.mono h.1)
    case sleep =>
      have hlater : KeepsTime (since + span.nanos) t := h
      exact ih (hlater.mono (Nat.le_add_right _ _))
    all_goals exact ih (show KeepsTime since t from h)
  | @cons_cons _ t e _ ih =>
    obtain ⟨_ | _ | _ | span | _, answer⟩ := e
    case uptime => exact ⟨h.1, ih h.2⟩
    case sleep => exact ih (show KeepsTime (since + span.nanos) t from h)
    all_goals exact ih (show KeepsTime since t from h)

end Trace

namespace RetryPolicy

open Program

/-- How an attempt went. At the end of one that failed the clock showed that so much time had gone by
since the first. -/
inductive Attempt (ε α : Type)
  | succeeded (value : α)
  | failed (error : ε) (elapsed : Duration)

variable {σ : Signature} {ε α : Type} {policy : RetryPolicy}

/-- Attempts of which each that failed is the last one exactly if it ended late. -/
def UntilLate (policy : RetryPolicy) (attempts : List (Attempt ε α)) : Prop :=
  ∀ earlier e elapsed later, attempts = earlier ++ .failed e elapsed :: later →
    (later = [] ↔ policy.timeout.nanos ≤ elapsed.nanos)

theorem untilLate_cons {a : Attempt ε α} {later : List (Attempt ε α)} :
    UntilLate policy (a :: later) ↔
      (∀ e elapsed, a = .failed e elapsed → (later = [] ↔ policy.timeout.nanos ≤ elapsed.nanos)) ∧
        UntilLate policy later := by
  constructor
  · intro h
    refine ⟨?_, fun earlier e elapsed rest heq => h (a :: earlier) e elapsed rest (heq ▸ rfl)⟩
    rintro e elapsed rfl
    exact h [] e elapsed later rfl
  · rintro ⟨hfirst, hlater⟩ earlier e elapsed rest heq
    obtain ⟨rfl, hcons⟩ | ⟨earlier, rfl, happend⟩ := List.cons_eq_append_iff.1 heq
    · cases hcons
      exact hfirst e elapsed rfl
    · exact hlater earlier e elapsed rest happend

theorem untilLate_nil : UntilLate policy ([] : List (Attempt ε α)) :=
  fun _ _ _ _ heq => absurd heq.symm (by simp)

variable [ToString ε]

section Rounds

variable (policy) (started : Duration)
  (operation : Program (σ.sum Surroundings) (Except ε α))

/-- The attempt with a number fails in time: it is reported, and slept on. -/
inductive Retries (number : UInt32) (e : ε) : Duration → Trace (σ.sum Surroundings) → Prop
  | intro {t : Trace (σ.sum Surroundings)} {now : Duration}
      (run : Leads operation t (.done (.error e)))
      (early : now.nanos - started.nanos < policy.timeout.nanos) :
      Retries number e ⟨now.nanos - started.nanos⟩
        (t ++ [⟨.inr .uptime, now⟩, ⟨.inr (.report (retrying number e)), ()⟩,
          ⟨.inr (.sleep policy.interval), ()⟩])

/-- The attempts from that with a number on: each fails in time, up to the one that succeeds or fails
late. -/
inductive Rounds : UInt32 → Trace (σ.sum Surroundings) → List (Attempt ε α) → Except ε α → Prop
  | succeeded {number : UInt32} {t : Trace (σ.sum Surroundings)} {a : α}
      (run : Leads operation t (.done (.ok a))) : Rounds number t [.succeeded a] (.ok a)
  | gaveUp {number : UInt32} {t : Trace (σ.sum Surroundings)} {now : Duration} {e : ε}
      (run : Leads operation t (.done (.error e)))
      (late : policy.timeout.nanos ≤ now.nanos - started.nanos) :
      Rounds number
        (t ++ [⟨.inr .uptime, now⟩, ⟨.inr (.report (policy.givingUp number e)), ()⟩])
        [.failed e ⟨now.nanos - started.nanos⟩] (.error e)
  | again {number : UInt32} {t u : Trace (σ.sum Surroundings)} {e : ε} {elapsed : Duration}
      {later : List (Attempt ε α)} {r : Except ε α}
      (first : Retries policy started operation number e elapsed t)
      (rest : Rounds (number + 1) u later r) :
      Rounds number (t ++ u) (.failed e elapsed :: later) r

/-- One attempt and so many more all fail in time. -/
inductive Spent : Nat → UInt32 → Trace (σ.sum Surroundings) → Prop
  | last {number : UInt32} {t : Trace (σ.sum Surroundings)} {e : ε} {elapsed : Duration}
      (first : Retries policy started operation number e elapsed t) : Spent 0 number t
  | again {more : Nat} {number : UInt32} {t u : Trace (σ.sum Surroundings)} {e : ε} {elapsed : Duration}
      (first : Retries policy started operation number e elapsed t)
      (rest : Spent more (number + 1) u) : Spent (more + 1) number (t ++ u)

end Rounds

variable {started : Duration} {more since : Nat} {number : UInt32}
  {operation : Program (σ.sum Surroundings) (Except ε α)} {t u : Trace (σ.sum Surroundings)}
  {e : ε} {elapsed : Duration} {r : Except ε α} {attempts : List (Attempt ε α)}

/-! ### Runs as rounds -/

/-- The first attempt is the last one, or is followed by others as far as there are more. -/
theorem exists_of_attempts
    (h : Leads (policy.attempts started operation more number) t (.done r)) :
    (∃ attempts, Rounds policy started operation number t attempts r) ∨
      ∃ e elapsed t₁ t₂, t = t₁ ++ t₂ ∧ Retries policy started operation number e elapsed t₁ ∧
        Leads (match more with
          | 0 => .done (.error e)
          | more + 1 => policy.attempts started operation more (number + 1)) t₂ (.done r) := by
  rw [RetryPolicy.attempts.eq_def] at h
  obtain ⟨t₁, first, t₂, rfl, hfirst, hrest⟩ := Leads.exists_of_bind h
  cases first with
  | ok a =>
    cases hrest
    rw [List.append_nil]
    exact .inl ⟨_, .succeeded hfirst⟩
  | error e =>
    obtain ⟨now, _, rfl, hnow⟩ := exists_of_aside hrest
    by_cases late : policy.timeout.nanos ≤ now.nanos - started.nanos
    · rw [if_pos late] at hnow
      obtain ⟨⟨⟩, _, rfl, hreport⟩ := exists_of_aside hnow
      cases hreport
      exact .inl ⟨_, .gaveUp hfirst late⟩
    · rw [if_neg late] at hnow
      obtain ⟨⟨⟩, _, rfl, hreport⟩ := exists_of_aside hnow
      obtain ⟨⟨⟩, t₂, rfl, hsleep⟩ := exists_of_aside hreport
      refine .inr ⟨e, _, _, t₂, ?_, .intro hfirst (Nat.not_le.1 late), hsleep⟩
      rw [List.append_assoc]
      rfl

/-- The attempts of a run, unless there are too few of them. -/
theorem rounds_or_spent
    (h : Leads (policy.attempts started operation more number) t (.done r)) :
    (∃ attempts, Rounds policy started operation number t attempts r) ∨
      Spent policy started operation more number t := by
  -- by how many attempts are left, whatever the number of the first
  induction more generalizing number t with
  | zero =>
    obtain rounds | ⟨e, elapsed, t₁, t₂, rfl, first, hrest⟩ := exists_of_attempts h
    · exact .inl rounds
    · cases hrest
      rw [List.append_nil]
      exact .inr (.last first)
  | succ more ih =>
    obtain rounds | ⟨e, elapsed, t₁, t₂, rfl, first, hrest⟩ := exists_of_attempts h
    · exact .inl rounds
    · obtain ⟨attempts, rest⟩ | rest := ih hrest
      · exact .inl ⟨_, .again first rest⟩
      · exact .inr (.again first rest)

/-! ### What is asked in an attempt -/

section Within

variable {x : Exchange σ}

theorem Retries.within (h : Retries policy started operation number e elapsed t) (hx : x.left ∈ t) :
    ∃ u r, Leads operation u (.done r) ∧ x.left ∈ u := by
  obtain ⟨run, -⟩ := h
  rcases List.mem_append.1 hx with hx | hx
  · exact ⟨_, _, run, hx⟩
  · simp [Exchange.left] at hx

theorem Rounds.within (h : Rounds policy started operation number t attempts r) (hx : x.left ∈ t) :
    ∃ u r, Leads operation u (.done r) ∧ x.left ∈ u := by
  induction h with
  | succeeded run => exact ⟨_, _, run, hx⟩
  | gaveUp run late =>
    rcases List.mem_append.1 hx with hx | hx
    · exact ⟨_, _, run, hx⟩
    · simp [Exchange.left] at hx
  | again first rest ih => exact (List.mem_append.1 hx).elim first.within ih

theorem Spent.within (h : Spent policy started operation more number t) (hx : x.left ∈ t) :
    ∃ u r, Leads operation u (.done r) ∧ x.left ∈ u := by
  induction h with
  | last first => exact first.within hx
  | again first rest ih => exact (List.mem_append.1 hx).elim first.within ih

/-- What is exchanged in a run, other than with the machine, is exchanged in an attempt. -/
theorem within_attempt {patience : Nat}
    (h : Leads (policy.untilSuccess operation patience) t (.done r)) (hx : x.left ∈ t) :
    ∃ u r, Leads operation u (.done r) ∧ x.left ∈ u := by
  obtain ⟨started, t, rfl, hattempts⟩ := exists_of_aside h
  have hx : x.left ∈ t := by simpa [Exchange.left] using hx
  obtain ⟨attempts, rounds⟩ | spent := rounds_or_spent hattempts
  · exact rounds.within hx
  · exact spent.within hx

end Within

/-! ### Enough attempts -/

theorem Retries.right_eq (h : Retries policy started operation number e elapsed t) :
    ∃ v now, Trace.right t = v ++ [⟨.uptime, now⟩, ⟨.report (retrying number e), ()⟩,
      ⟨.sleep policy.interval, ()⟩] ∧ elapsed = ⟨now.nanos - started.nanos⟩ ∧
      elapsed.nanos < policy.timeout.nanos := by
  cases h with
  | intro run early =>
    rw [Trace.right_append]
    exact ⟨_, _, rfl, rfl, early⟩

/-- What the clock shows at the end of an attempt that fails in time. -/
theorem Retries.clock (h : Retries policy started operation number e elapsed t)
    (clock : Trace.KeepsTime since (Trace.right (t ++ u))) :
    since - started.nanos < policy.timeout.nanos ∧
      Trace.KeepsTime (since + policy.interval.nanos) (Trace.right u) := by
  obtain ⟨v, now, hright, rfl, early⟩ := h.right_eq
  rw [Trace.right_append, hright, List.append_assoc] at clock
  obtain ⟨hnow, clock⟩ := clock.sublist (List.sublist_append_right _ _)
  have hearly : now.nanos - started.nanos < policy.timeout.nanos := early
  exact ⟨by omega, Trace.KeepsTime.mono clock (Nat.add_le_add_right hnow _)⟩

/-- So many sleeps fit into the timeout. -/
theorem Spent.clock (h : Spent policy started operation more number t)
    (clock : Trace.KeepsTime since (Trace.right t)) (hsince : started.nanos ≤ since) :
    since - started.nanos + more * policy.interval.nanos < policy.timeout.nanos := by
  induction h generalizing since with
  | last first =>
    have hearly := (first.clock (u := []) (by rwa [List.append_nil])).1
    omega
  | again first rest ih =>
    -- the sleep has moved the clock on by one interval
    have hlater := ih (first.clock clock).2 (Nat.le_add_right_of_le hsince)
    rw [Nat.succ_mul]
    omega

/-- Every attempt asks the machine something. -/
theorem Spent.lt_length (h : Spent policy started operation more number t) :
    more < (Trace.right t).length := by
  have hpositive : ∀ {number e elapsed} {t : Trace (σ.sum Surroundings)},
      Retries policy started operation number e elapsed t → 0 < (Trace.right t).length := by
    intro number e elapsed t first
    obtain ⟨v, now, hright, -⟩ := first.right_eq
    simp [hright]
  induction h with
  | last first => exact hpositive first
  | again first rest ih =>
    have := hpositive first
    rw [Trace.right_append, List.length_append]
    omega

/-- There are enough attempts for any clock, and for any run if no clock bounds them. -/
theorem not_spent {patience : Nat} (clock : Trace.KeepsTime started.nanos (Trace.right t))
    (short : policy.interval.nanos = 0 → (Trace.right t).length ≤ patience) :
    ¬ Spent policy started operation (policy.moreAttempts patience) number t := by
  intro spent
  have hlength := spent.lt_length
  have hclock := spent.clock clock (Nat.le_refl _)
  unfold moreAttempts at hlength hclock
  split at hlength
  · next hzero => exact absurd hlength (Nat.not_lt.2 (short hzero))
  · next hpositive =>
    -- so many intervals are at least the timeout, and were all slept through in it
    rw [if_neg hpositive] at hclock
    have hceil := Nat.lt_div_mul_add
      (a := policy.timeout.nanos + policy.interval.nanos - 1) (Nat.pos_of_ne_zero hpositive)
    omega

/-! ### All attempts -/

/-- The attempts of a retried program in a run. -/
def Tried (policy : RetryPolicy) (operation : Program (σ.sum Surroundings) (Except ε α))
    (t : Trace (σ.sum Surroundings)) (attempts : List (Attempt ε α)) (r : Except ε α) : Prop :=
  ∃ started u, t = ⟨.inr .uptime, started⟩ :: u ∧ Rounds policy started operation 1 u attempts r

/-- A run consists of attempts. -/
theorem exists_tried {patience : Nat}
    (h : Leads (policy.untilSuccess operation patience) t (.done r))
    (clock : Trace.KeepsTime 0 (Trace.right t))
    (short : policy.interval.nanos = 0 → (Trace.right t).length ≤ patience) :
    ∃ attempts, Tried policy operation t attempts r := by
  obtain ⟨started, u, rfl, hattempts⟩ := exists_of_aside h
  obtain ⟨attempts, rounds⟩ | spent := rounds_or_spent hattempts
  · exact ⟨attempts, started, u, rfl, rounds⟩
  · exact absurd spent (not_spent clock.2 fun hzero =>
      Nat.le_trans (Nat.le_succ _) (short hzero))

theorem Rounds.ne_nil (h : Rounds policy started operation number t attempts r) : attempts ≠ [] := by
  cases h <;> exact List.cons_ne_nil _ _

theorem Rounds.untilLate (h : Rounds policy started operation number t attempts r) :
    UntilLate policy attempts := by
  induction h with
  | succeeded run => exact untilLate_cons.2 ⟨fun _ _ h => (nomatch h), untilLate_nil⟩
  | gaveUp run late =>
    refine untilLate_cons.2 ⟨?_, untilLate_nil⟩
    rintro _ _ ⟨⟩
    exact iff_of_true rfl late
  | again first rest ih =>
    refine untilLate_cons.2 ⟨?_, ih⟩
    rintro _ _ ⟨⟩
    obtain ⟨-, -, -, -, early⟩ := first.right_eq
    exact iff_of_false rest.ne_nil (Nat.not_le.2 early)

/-- What consists of attempts is a run, if there are enough of them. -/
theorem Rounds.leads (h : Rounds policy started operation number t attempts r)
    (enough : attempts.length ≤ more + 1) :
    Leads (policy.attempts started operation more number) t (.done r) := by
  induction h generalizing more with
  | succeeded run => exact leads_last run
  | gaveUp run late => exact leads_gaveUp _ _ run late
  | @again number t u e elapsed later r first rest ih =>
    obtain _ | more := more
    · have := List.length_pos_iff.2 rest.ne_nil
      simp only [List.length_cons] at enough
      omega
    · obtain ⟨run, early⟩ := first
      have hlater := leads_again started _ run early (ih (Nat.le_of_succ_le_succ enough))
      rw [List.append_assoc]
      exact hlater

theorem Tried.leads {patience : Nat} (h : Tried policy operation t attempts r)
    (enough : attempts.length ≤ policy.moreAttempts patience + 1) :
    Leads (policy.untilSuccess operation patience) t (.done r) := by
  obtain ⟨started, u, rfl, rounds⟩ := h
  exact leads_aside .uptime started (rounds.leads enough)

theorem Tried.untilLate (h : Tried policy operation t attempts r) : UntilLate policy attempts := by
  obtain ⟨_, _, -, rounds⟩ := h
  exact rounds.untilLate

end RetryPolicy

end NodePki
