import NodePki.Proofs.Ensure.NodeSecret
import NodePki.Proofs.Program.Interpret

/-!
# The plan of a call for a node's secret

What a call does, with the making of the certificate as one question to the caller. The plan
(`NodeCall.plan`) is the same for every way of issuing; the call is the plan with `issue` carried
out where a certificate is asked for (`NodeCall.interpret_plan`). So each run of the call has its
steps: the questions to the store, the certificate, and what is reported (`NodeCall.exists_steps`).
-/

namespace NodePki

/-- What a call for a node's secret asks of its caller. -/
inductive Caller.Op
  /-- A key and a certificate chain. -/
  | issue
  /-- That an event is reported. -/
  | report (event : Log.Event)
  deriving DecidableEq

/-- The caller. -/
@[reducible] def Caller : Signature where
  Op := Caller.Op
  Answer
    | .issue => Except Error IssuedCertificate
    | .report _ => Unit

/-- Programs that ask a store and a caller. -/
abbrev Planning := Program (SecretStore.sum Caller)

namespace NodeCall

/-- The secret that the call creates. -/
def secret (c : NodeCall) (reference : Kube.OwnerReference) (issued : IssuedCertificate) :
    Kube.Secret :=
  .ofNode c.secretName c.id.ns c.id.podName c.certificateType c.labels reference issued

/-- What each event of the call says about it. -/
def fields (c : NodeCall) : List (String × String) :=
  [("pod", c.id.podName), ("secret", c.secretName), ("namespace", c.id.ns)]

/-- Reported where there is a secret. -/
def foundEvent (c : NodeCall) : Log.Event :=
  Log.Source.secrets.event .debug "Node certificate secret already exists" c.fields

/-- Reported once the secret is created. -/
def createdEvent (c : NodeCall) : Log.Event :=
  Log.Source.secrets.event .info "Created node certificate secret"
    (c.fields ++ [("certificate_type", c.certificateType)])

/-- Reported once the name is lost. -/
def lostEvent (c : NodeCall) : Log.Event :=
  Log.Source.secrets.event .debug "Lost node certificate secret create race, reading winner"
    c.fields

/-! ### The plan -/

/-- After the loss of the name: the winner is read. -/
def planLost (c : NodeCall) : Planning (Except Error Kube.Secret) :=
  .ask (.inl (.get c.id.ns c.secretName)) fun (winner : Except Error (Option Kube.Secret)) =>
    match winner with
    | .error e => .done (.error e)
    | .ok none => .done (.error (.store (.unreadable c.id.ns c.secretName)))
    | .ok (some s) => .done (c.judge s)

/-- With a secret at hand: it is created. -/
def planCreating (c : NodeCall) (secret : Kube.Secret) : Planning (Except Error Kube.Secret) :=
  .ask (.inl (.create c.id.ns secret)) fun (outcome : Except Error CreateOutcome) =>
    match outcome with
    | .error e => .done (.error e)
    | .ok (.created s) => .ask (.inr (.report c.createdEvent)) fun _ => .done (.ok s)
    | .ok .alreadyExists => .ask (.inr (.report c.lostEvent)) fun _ => c.planLost

/-- Where there is no secret: one is made. -/
def planAbsent (c : NodeCall) : Planning (Except Error Kube.Secret) :=
  match ownerReference c.owner c.secretName with
  | .error e => .done (.error e)
  | .ok reference =>
    .ask (.inr .issue) fun (made : Except Error IssuedCertificate) =>
      match made with
      | .error e => .done (.error e)
      | .ok issued => c.planCreating (c.secret reference issued)

/-- What the call asks, and how it ends. -/
def plan (c : NodeCall) : Planning (Except Error Kube.Secret) :=
  match SecretName.checkType c.certificateType with
  | .error e => .done (.error e)
  | .ok () =>
    .ask (.inl (.get c.id.ns c.secretName)) fun (existing : Except Error (Option Kube.Secret)) =>
      match existing with
      | .error e => .done (.error e)
      | .ok none => c.planAbsent
      | .ok (some s) => .ask (.inr (.report c.foundEvent)) fun _ => .done (c.judge s)

/-! ### The call carries out its plan -/

/-- How each question to the caller is answered. -/
def answerBy (c : NodeCall) : (op : Caller.Op) → Program Surroundings (Caller.Answer op)
  | .issue => c.issue
  | .report event => Program.perform Surroundings (.report event)

/-- How each step of the plan is carried out. -/
def carryOut (c : NodeCall) : (op : (SecretStore.sum Caller).Op) →
    Storing ((SecretStore.sum Caller).Answer op)
  | .inl op => (Program.perform SecretStore op).left
  | .inr op => (c.answerBy op).right

theorem judge_eq_done (c : NodeCall) (s : Kube.Secret) :
    (do s.checkNode c.secretName c.certificateType
        return s : ExceptT Error Storing Kube.Secret) =
      (Program.done (c.judge s) : Storing (Except Error Kube.Secret)) := by
  unfold judge
  cases s.checkNode c.secretName c.certificateType <;> rfl

/-- The call is its plan, carried out. -/
theorem interpret_plan (c : NodeCall) : c.plan.interpret c.carryOut = c.program := by
  unfold plan program ensureNodeSecret
  -- the same answer is followed on both sides; they differ in how a secret is judged
  cases SecretName.checkType c.certificateType with
  | error e => rfl
  | ok valid =>
    refine congrArg (Program.ask _) (funext fun existing => ?_)
    match existing with
    | .error e => rfl
    | .ok (some s) => exact congrArg (Program.ask _) (funext fun _ => (judge_eq_done c s).symm)
    | .ok none =>
      change c.planAbsent.interpret c.carryOut =
        (liftM (ownerReference c.owner c.secretName) >>= _ : ExceptT Error Storing Kube.Secret)
      unfold planAbsent
      cases ownerReference c.owner c.secretName with
      | error e => rfl
      | ok reference =>
        refine congrArg (Program.bind (Program.right c.issue)) (funext fun made => ?_)
        match made with
        | .error e => rfl
        | .ok issued =>
          refine congrArg (Program.ask _) (funext fun outcome => ?_)
          match outcome with
          | .error e => rfl
          | .ok (.created s) => rfl
          | .ok .alreadyExists =>
            refine congrArg (Program.ask _) (funext fun _ => ?_)
            refine congrArg (Program.ask _) (funext fun winner => ?_)
            match winner with
            | .error e => rfl
            | .ok none => rfl
            | .ok (some s) => exact (judge_eq_done c s).symm

/-- One step, carried out: only the questions of the plan reach the store. -/
theorem left_carryOut {c : NodeCall} {e : Exchange (SecretStore.sum Caller)}
    {t : Trace (SecretStore.sum Surroundings)}
    (h : (c.carryOut e.op).Leads t (.done e.answer)) : t.left = Trace.left [e] := by
  obtain ⟨op | op, answer⟩ := e
  · rw [Program.leads_perform_left_iff.1 h]
    rfl
  · obtain ⟨t, rfl, -⟩ := Program.Leads.exists_of_right (σ := SecretStore) (p := c.answerBy op) h
    exact Trace.left_map_right t

theorem left_of_carried {c : NodeCall} {u : Trace (SecretStore.sum Caller)}
    {t : Trace (SecretStore.sum Surroundings)} (h : Program.Carried c.carryOut u t) :
    t.left = u.left := by
  induction h with
  | nil => rfl
  | @cons e u t t' first _ ih =>
    rw [Trace.left_append, left_carryOut first, ih, ← Trace.left_append]
    rfl

/-- Each run of the call has its steps, with the questions that reach the store. -/
theorem exists_steps {c : NodeCall} {t : Trace (SecretStore.sum Surroundings)}
    {r : Except Error Kube.Secret} (h : c.program.Leads t (.done r)) :
    ∃ u, t.left = u.left ∧ Program.Carried c.carryOut u t ∧ c.plan.Leads u (.done r) := by
  rw [← interpret_plan] at h
  obtain ⟨u, hcarried, hplan⟩ := Program.Leads.exists_carried h
  exact ⟨u, left_of_carried hcarried, hcarried, hplan⟩

end NodeCall

end NodePki
