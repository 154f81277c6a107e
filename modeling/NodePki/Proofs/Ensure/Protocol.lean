import NodePki.Proofs.Ensure.Plan

/-!
# What a call asks of its store

The protocol between a call for a node's secret and a store of which nothing is known. `Asks` and
`Ends` say after which steps each question is asked and each result is reached; they are judgements
of the plan, so they hold whatever is answered (`NodeCall.along_plan`). What a user of the call may
rely on follows from them (`NodeCall.Obeys`), for every run of the call, and there is a run however
the store and the machine answer (`NodeCall.follows_protocol`).
-/

namespace NodePki

/-- The answer to the last read. -/
def Trace.lastRead? : Trace SecretStore → Option (Except Error (Option Kube.Secret))
  | [] => none
  | ⟨.get _ _, answer⟩ :: t => (lastRead? t).or (some answer)
  | ⟨.create _ _, _⟩ :: t => lastRead? t

@[simp] theorem Trace.left_nil {σ τ : Signature} : Trace.left ([] : Trace (σ.sum τ)) = [] := rfl

namespace NodeCall

/-- The secret of the call is read. -/
def read (c : NodeCall) (answer : Except Error (Option Kube.Secret)) :
    Exchange (SecretStore.sum Caller) :=
  ⟨.inl (.get c.id.ns c.secretName), answer⟩

/-- A secret is created. -/
def create (c : NodeCall) (secret : Kube.Secret) (answer : Except Error CreateOutcome) :
    Exchange (SecretStore.sum Caller) :=
  ⟨.inl (.create c.id.ns secret), answer⟩

/-- A certificate is issued. -/
def issued (answer : Except Error IssuedCertificate) : Exchange (SecretStore.sum Caller) :=
  ⟨.inr .issue, answer⟩

/-- An event is reported. -/
def reported (event : Log.Event) : Exchange (SecretStore.sum Caller) := ⟨.inr (.report event), ()⟩

/-- Whether a certificate is asked for. -/
def isIssue : Exchange (SecretStore.sum Caller) → Bool
  | ⟨.inr .issue, _⟩ => true
  | _ => false

section Steps

variable (c : NodeCall) (u : Trace (SecretStore.sum Caller))

@[simp] theorem left_read (answer : Except Error (Option Kube.Secret)) :
    Trace.left (c.read answer :: u) = ⟨.get c.id.ns c.secretName, answer⟩ :: u.left := rfl

@[simp] theorem left_create (secret : Kube.Secret) (answer : Except Error CreateOutcome) :
    Trace.left (c.create secret answer :: u) = ⟨.create c.id.ns secret, answer⟩ :: u.left := rfl

@[simp] theorem left_issued (answer : Except Error IssuedCertificate) :
    Trace.left (issued answer :: u) = u.left := rfl

@[simp] theorem left_reported (event : Log.Event) : Trace.left (reported event :: u) = u.left := rfl

end Steps

/-- The steps up to a creation. -/
def stepsTo (c : NodeCall) (reference : Kube.OwnerReference) (made : IssuedCertificate)
    (answer : Except Error CreateOutcome) : Trace (SecretStore.sum Caller) :=
  [c.read (.ok none), issued (.ok made), c.create (c.secret reference made) answer]

/-- The steps of a call that lost the name. -/
def stepsLost (c : NodeCall) (reference : Kube.OwnerReference) (made : IssuedCertificate) :
    Trace (SecretStore.sum Caller) :=
  c.stepsTo reference made (.ok .alreadyExists) ++ [reported c.lostEvent]

variable {c : NodeCall} {u : Trace (SecretStore.sum Caller)} {r : Except Error Kube.Secret}

/-- What is asked, and after which steps. -/
inductive Asks (c : NodeCall) (u : Trace (SecretStore.sum Caller)) :
    (SecretStore.sum Caller).Op → Prop
  | read (first : u = []) : Asks c u (.inl (.get c.id.ns c.secretName))
  | issue {reference : Kube.OwnerReference}
      (owned : ownerReference c.owner c.secretName = .ok reference)
      (absent : u = [c.read (.ok none)]) : Asks c u (.inr .issue)
  | create {reference : Kube.OwnerReference} {made : IssuedCertificate}
      (owned : ownerReference c.owner c.secretName = .ok reference)
      (ready : u = [c.read (.ok none), issued (.ok made)]) :
      Asks c u (.inl (.create c.id.ns (c.secret reference made)))
  | reread {reference : Kube.OwnerReference} {made : IssuedCertificate}
      (lost : u = c.stepsLost reference made) : Asks c u (.inl (.get c.id.ns c.secretName))
  | report (event : Log.Event) : Asks c u (.inr (.report event))

/-- How a call ends, and after which steps. -/
inductive Ends (c : NodeCall) : Trace (SecretStore.sum Caller) → Except Error Kube.Secret → Prop
  | refused {e : Error} (invalid : SecretName.checkType c.certificateType = .error e) :
      Ends c [] (.error e)
  | unread (e : Error) : Ends c [c.read (.error e)] (.error e)
  | found (s : Kube.Secret) : Ends c [c.read (.ok (some s)), reported c.foundEvent] (c.judge s)
  | unowned {e : Error} (unowned : ownerReference c.owner c.secretName = .error e) :
      Ends c [c.read (.ok none)] (.error e)
  | unissued (e : Error) : Ends c [c.read (.ok none), issued (.error e)] (.error e)
  | uncreated (reference : Kube.OwnerReference) (made : IssuedCertificate) (e : Error) :
      Ends c (c.stepsTo reference made (.error e)) (.error e)
  | created (reference : Kube.OwnerReference) (made : IssuedCertificate) (s : Kube.Secret) :
      Ends c (c.stepsTo reference made (.ok (.created s)) ++ [reported c.createdEvent]) (.ok s)
  | lostUnread (reference : Kube.OwnerReference) (made : IssuedCertificate) (e : Error) :
      Ends c (c.stepsLost reference made ++ [c.read (.error e)]) (.error e)
  | vanished (reference : Kube.OwnerReference) (made : IssuedCertificate) :
      Ends c (c.stepsLost reference made ++ [c.read (.ok none)])
        (.error (.store (.unreadable c.id.ns c.secretName)))
  | lost (reference : Kube.OwnerReference) (made : IssuedCertificate) (s : Kube.Secret) :
      Ends c (c.stepsLost reference made ++ [c.read (.ok (some s))]) (c.judge s)

/-- Whatever is answered, the plan asks and ends so. -/
theorem along_plan (c : NodeCall) : c.plan.Along c.Asks c.Ends [] := by
  unfold plan
  cases hvalid : SecretName.checkType c.certificateType with
  | error e => exact (Program.along_done _).2 (.refused hvalid)
  | ok valid =>
    refine Program.along_ask.2 ⟨.read rfl, fun existing => ?_⟩
    match existing with
    | .error e => exact (Program.along_done _).2 (.unread e)
    | .ok (some s) =>
      exact Program.along_ask.2 ⟨.report _, fun _ => (Program.along_done _).2 (.found s)⟩
    | .ok none =>
      change Program.Along c.Asks c.Ends [c.read (.ok none)] c.planAbsent
      unfold planAbsent
      cases hreference : ownerReference c.owner c.secretName with
      | error e => exact (Program.along_done _).2 (.unowned hreference)
      | ok reference =>
        refine Program.along_ask.2 ⟨.issue hreference rfl, fun answer => ?_⟩
        match answer with
        | .error e => exact (Program.along_done _).2 (.unissued e)
        | .ok made =>
          refine Program.along_ask.2 ⟨.create hreference rfl, fun outcome => ?_⟩
          match outcome with
          | .error e => exact (Program.along_done _).2 (.uncreated reference made e)
          | .ok (.created s) =>
            exact Program.along_ask.2
              ⟨.report _, fun _ => (Program.along_done _).2 (.created reference made s)⟩
          | .ok .alreadyExists =>
            refine Program.along_ask.2 ⟨.report _, fun _ => ?_⟩
            refine Program.along_ask.2 ⟨.reread rfl, fun winner => ?_⟩
            match winner with
            | .error e => exact (Program.along_done _).2 (.lostUnread reference made e)
            | .ok none => exact (Program.along_done _).2 (.vanished reference made)
            | .ok (some s) => exact (Program.along_done _).2 (.lost reference made s)

/-! ### What may be relied on -/

/-- The protocol: what is asked of the store and of the caller, in which order, and how the result
follows from the answers. -/
structure Obeys (c : NodeCall) (u : Trace (SecretStore.sum Caller)) (r : Except Error Kube.Secret) :
    Prop where
  /-- At most a read, a creation and a read, in this order and for one name. -/
  questions : ∃ secret : Kube.Secret, secret.isAt c.id.ns c.secretName ∧
    u.left.map Exchange.op <+:
      [.get c.id.ns c.secretName, .create c.id.ns secret, .get c.id.ns c.secretName]
  silent_iff : u.left = [] ↔ ∃ e, SecretName.checkType c.certificateType = .error e
  issues_once : u.countP isIssue ≤ 1
  issue_after : ∀ before answer after, u = before ++ issued answer :: after →
    before.left = [⟨.get c.id.ns c.secretName, .ok none⟩] ∧
      ∃ reference, ownerReference c.owner c.secretName = .ok reference
  create_after : ∀ before secret answer after, u = before ++ c.create secret answer :: after →
    ∃ reference made, ownerReference c.owner c.secretName = .ok reference ∧
      issued (.ok made) ∈ before ∧ secret = c.secret reference made
  reread_after : ∀ before answer after, u = before ++ c.read answer :: after → before.left ≠ [] →
    ∃ secret, before.left.getLast? = some ⟨.create c.id.ns secret, .ok .alreadyExists⟩
  ok_iff : ∀ s, r = .ok s ↔
    (∃ secret, ⟨.create c.id.ns secret, .ok (.created s)⟩ ∈ u.left) ∨
      (u.left.lastRead? = some (.ok (some s)) ∧ s.FitsNode c.certificateType)
  unfit : ∀ s, u.left.lastRead? = some (.ok (some s)) → ¬ s.FitsNode c.certificateType →
    ∃ fault, r = .error (.store fault)
  vanished : ∀ first second, u.left = [first, second, ⟨.get c.id.ns c.secretName, .ok none⟩] →
    ∃ fault, r = .error (.store fault)
  read_error : ∀ e, ⟨.get c.id.ns c.secretName, .error e⟩ ∈ u.left → r = .error e
  create_error : ∀ secret e, ⟨.create c.id.ns secret, .error e⟩ ∈ u.left → r = .error e
  issue_error : ∀ e, issued (.error e) ∈ u → r = .error e

theorem judge_eq_ok_iff_fits {s s' : Kube.Secret} :
    c.judge s = .ok s' ↔ s = s' ∧ s'.FitsNode c.certificateType := by
  rw [judge_eq_ok, Kube.Secret.checkNode_eq_ok_iff]
  exact ⟨fun ⟨hfits, h⟩ => ⟨h, h ▸ hfits⟩, fun ⟨h, hfits⟩ => ⟨h ▸ hfits, h⟩⟩

theorem judge_of_unfit {s : Kube.Secret} (h : ¬ s.FitsNode c.certificateType) :
    ∃ fault, c.judge s = .error (.store fault) := by
  rw [← Kube.Secret.checkNode_eq_ok_iff c.secretName] at h
  cases hcheck : s.checkNode c.secretName c.certificateType with
  | ok checked => exact absurd hcheck h
  | error e =>
    obtain ⟨fault, rfl⟩ := Kube.Secret.store_of_checkNode hcheck
    exact ⟨fault, judge_eq_error.2 hcheck⟩

theorem isAt_secret (c : NodeCall) (reference : Kube.OwnerReference) (made : IssuedCertificate) :
    (c.secret reference made).isAt c.id.ns c.secretName := by
  simp [Kube.Secret.isAt, secret, Kube.Secret.ofNode]

theorem exists_isAt (ns name : String) : ∃ s : Kube.Secret, s.isAt ns name :=
  ⟨{ metadata := { name := some name, ns := some ns } }, by simp [Kube.Secret.isAt]⟩

/-- A type that is refused leaves nothing to do. -/
theorem plan_of_invalid {e : Error} (h : SecretName.checkType c.certificateType = .error e) :
    c.plan = .done (.error e) := by
  rw [plan, h]

namespace Ends

theorem questions (h : c.Ends u r) : ∃ secret : Kube.Secret, secret.isAt c.id.ns c.secretName ∧
    u.left.map Exchange.op <+:
      [.get c.id.ns c.secretName, .create c.id.ns secret, .get c.id.ns c.secretName] := by
  cases h with
  | refused _ | unread | found | unowned _ | unissued =>
    simpa using exists_isAt c.id.ns c.secretName
  | uncreated reference made | created reference made | lostUnread reference made
  | vanished reference made | lost reference made =>
    exact ⟨c.secret reference made, c.isAt_secret reference made, by simp [stepsTo, stepsLost]⟩

theorem invalid_of_silent (h : c.Ends u r) (hu : u.left = []) :
    ∃ e, SecretName.checkType c.certificateType = .error e := by
  cases h with
  | refused invalid => exact ⟨_, invalid⟩
  | _ => simp [stepsTo, stepsLost] at hu

theorem issues_once (h : c.Ends u r) : u.countP isIssue ≤ 1 := by
  cases h <;> simp [stepsTo, stepsLost, read, create, issued, reported, isIssue, List.countP_cons]

theorem ok_iff (h : c.Ends u r) (s : Kube.Secret) :
    r = .ok s ↔ (∃ secret, ⟨.create c.id.ns secret, .ok (.created s)⟩ ∈ u.left) ∨
      (u.left.lastRead? = some (.ok (some s)) ∧ s.FitsNode c.certificateType) := by
  cases h with
  | created => simp [stepsTo, Trace.lastRead?, eq_comm]
  | _ => simp [judge_eq_ok_iff_fits, stepsTo, stepsLost, Trace.lastRead?]

theorem unfit (h : c.Ends u r) {s : Kube.Secret} (hs : u.left.lastRead? = some (.ok (some s)))
    (hfits : ¬ s.FitsNode c.certificateType) : ∃ fault, r = .error (.store fault) := by
  cases h with
  | found s' =>
    obtain rfl : s' = s := by simpa [Trace.lastRead?] using hs
    exact judge_of_unfit hfits
  | lost reference made s' =>
    obtain rfl : s' = s := by simpa [stepsTo, stepsLost, Trace.lastRead?] using hs
    exact judge_of_unfit hfits
  | _ => simp [stepsTo, stepsLost, Trace.lastRead?] at hs

theorem store_of_vanished (h : c.Ends u r) {first second : Exchange SecretStore}
    (hu : u.left = [first, second, ⟨.get c.id.ns c.secretName, .ok none⟩]) :
    ∃ fault, r = .error (.store fault) := by
  cases h with
  | vanished => exact ⟨_, rfl⟩
  | _ => simp [stepsTo, stepsLost] at hu

theorem read_error (h : c.Ends u r) {e : Error}
    (he : ⟨.get c.id.ns c.secretName, .error e⟩ ∈ u.left) : r = .error e := by
  cases h with
  | unread e' =>
    obtain rfl : e = e' := by simpa using he
    rfl
  | lostUnread reference made e' =>
    obtain rfl : e = e' := by simpa [stepsTo, stepsLost] using he
    rfl
  | _ => simp [stepsTo, stepsLost] at he

theorem create_error (h : c.Ends u r) {secret : Kube.Secret} {e : Error}
    (he : ⟨.create c.id.ns secret, .error e⟩ ∈ u.left) : r = .error e := by
  cases h with
  | uncreated reference made e' =>
    obtain ⟨-, rfl⟩ : secret = c.secret reference made ∧ e = e' := by simpa [stepsTo] using he
    rfl
  | _ => simp [stepsTo, stepsLost] at he

theorem issue_error (h : c.Ends u r) {e : Error} (he : issued (.error e) ∈ u) : r = .error e := by
  cases h with
  | unissued e' =>
    obtain rfl : e = e' := by simpa [read, issued] using he
    rfl
  | _ => simp [stepsTo, stepsLost, read, create, issued, reported] at he

end Ends

/-- Every run of the plan obeys the protocol. -/
theorem obeys_of_leads (h : c.plan.Leads u (.done r)) : c.Obeys u r := by
  have ends := c.along_plan.ends h
  refine
    { questions := ends.questions
      silent_iff := ⟨ends.invalid_of_silent, ?silent⟩
      issues_once := ends.issues_once
      issue_after := ?issue
      create_after := ?create
      reread_after := ?reread
      ok_iff := ends.ok_iff
      unfit := fun s => ends.unfit
      vanished := fun first second => ends.store_of_vanished
      read_error := fun e => ends.read_error
      create_error := fun secret e => ends.create_error
      issue_error := fun e => ends.issue_error }
  -- that nothing is asked is no matter of the answers, so it is read off the plan
  case silent =>
    rintro ⟨e, invalid⟩
    rw [plan_of_invalid invalid] at h
    cases h
    rfl
  case issue =>
    rintro before answer after rfl
    cases c.along_plan.asked h with
    | issue owned absent => exact ⟨by rw [absent]; rfl, _, owned⟩
  case create =>
    rintro before secret answer after rfl
    cases c.along_plan.asked h with
    | create owned ready => exact ⟨_, _, owned, by simp [ready], rfl⟩
  case reread =>
    rintro before answer after rfl later
    cases c.along_plan.asked h with
    | read first => exact absurd (by rw [first]; rfl) later
    | reread lost => exact ⟨_, by rw [lost]; rfl⟩

/-- Every run of the call obeys the protocol, whatever it is answered, and there is a run however it
is answered. -/
theorem follows_protocol (c : NodeCall) :
    (∀ t r, c.program.Leads t (.done r) →
      ∃ u, t.left = u.left ∧ Program.Carried c.carryOut u t ∧ c.Obeys u r) ∧
    ∀ answers : Trace (SecretStore.sum Surroundings) →
        (op : (SecretStore.sum Surroundings).Op) → (SecretStore.sum Surroundings).Answer op,
      ∃ t r, c.program.Leads t (.done r) ∧ Program.AnsweredBy answers t := by
  refine ⟨fun t r h => ?_, fun answers => Program.exists_leads answers c.program⟩
  obtain ⟨u, hleft, hcarried, hplan⟩ := exists_steps h
  exact ⟨u, hleft, hcarried, obeys_of_leads hplan⟩

end NodeCall

end NodePki
