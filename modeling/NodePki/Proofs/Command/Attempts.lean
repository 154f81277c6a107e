import NodePki.Proofs.Command.DryRun
import NodePki.Proofs.Validity

/-!
# Attempts of the ensure command

Both steps of the ensure command, for the authority and for the node, are retried, and all that decides
whether a failed attempt is the last one of its step is the time that has gone by
(`EnsureRequest.retries_until_late`). What failed is no matter: a failure that cannot pass by itself is
retried as any other (`EnsureRequest.retries_permanent_failure`).
-/

namespace NodePki.EnsureRequest

open Program (Leads)
open RetryPolicy (Attempt Tried UntilLate)

/-- The attempts of both steps in a run that ensures the secrets. -/
inductive Steps (r : EnsureRequest) (config : Config) (pod : Kube.Pod) (id : NodeIdentity)
    (services : List ServiceEndpoint) :
    Trace (SecretStore.sum Surroundings) → List (Attempt Error CertificateAuthority) →
      List (Attempt Error Kube.Secret) → Except CommandFault Kube.Secret → Prop
  | authority {u : Trace (SecretStore.sum Surroundings)}
      {attempts : List (Attempt Error CertificateAuthority)} {e : Error}
      (tried : Tried (policy config) (ensureAuthority r.ns r.cluster config.authorityValidity)
        u attempts (.error e)) :
      Steps r config pod id services u attempts [] (.error (.authority e))
  | node {u v : Trace (SecretStore.sum Surroundings)}
      {attempts : List (Attempt Error CertificateAuthority)}
      {nodeAttempts : List (Attempt Error Kube.Secret)} {authority : CertificateAuthority}
      {result : Except Error Kube.Secret}
      (tried : Tried (policy config) (ensureAuthority r.ns r.cluster config.authorityValidity)
        u attempts (.ok authority))
      (nodeTried : Tried (policy config)
        (ensureNodeSecret ⟨Kube.Kind.pod, pod.metadata⟩ id r.certificateType r.labels
          (authority.issue id services config.nodeValidity)) v nodeAttempts result) :
      Steps r config pod id services (u ++ v) attempts nodeAttempts (result.mapError .nodeSecret)

variable {r : EnsureRequest} {config : Config} {pod : Kube.Pod} {id : NodeIdentity}
  {services : List ServiceEndpoint} {u : Trace (SecretStore.sum Surroundings)}
  {secret : Except CommandFault Kube.Secret}

/-- A step consists of attempts, if they are enough for the clock. -/
theorem exists_tried {α : Type} {operation : Storing (Except Error α)} {result : Except Error α}
    (h : Leads ((policy config).untilSuccess operation) u (.done result))
    (clock : Trace.KeepsTime 0 (Trace.right u))
    (short : config.retryIntervalSeconds = 0 → (Trace.right u).length < UInt64.size) :
    ∃ attempts, Tried (policy config) operation u attempts result := by
  refine RetryPolicy.exists_tried h clock fun hzero => Nat.le_of_lt (short ?_)
  have hinterval : config.retryIntervalSeconds * 1000000000 = 0 := hzero
  omega

/-- A run that ensures the secrets consists of the attempts of both steps. -/
theorem exists_steps (h : Leads (r.ensureSecrets config pod id services) u (.done secret))
    (clock : Trace.KeepsTime 0 (Trace.right u))
    (short : config.retryIntervalSeconds = 0 → (Trace.right u).length < UInt64.size) :
    ∃ attempts nodeAttempts, r.Steps config pod id services u attempts nodeAttempts secret := by
  obtain ⟨fault, hauthority, rfl⟩ | ⟨authority, u, v, rfl, hauthority, hnode⟩ :=
    Leads.exists_of_try h
  · obtain ⟨_ | _, hrun, heq⟩ := exists_of_during hauthority
    case ok => cases heq
    cases heq
    obtain ⟨attempts, tried⟩ := exists_tried hrun clock short
    exact ⟨attempts, [], .authority tried⟩
  · obtain ⟨_ | _, hrun, heq⟩ := exists_of_during hauthority
    case error => cases heq
    cases heq
    obtain ⟨result, hnodeRun, rfl⟩ := exists_of_during hnode
    rw [Trace.right_append] at clock short
    have hlength : (Trace.right u ++ Trace.right v).length =
        (Trace.right u).length + (Trace.right v).length := List.length_append
    obtain ⟨attempts, tried⟩ := exists_tried hrun (clock.sublist (List.sublist_append_left _ _))
      fun hzero => by have := short hzero; omega
    obtain ⟨nodeAttempts, nodeTried⟩ := exists_tried hnodeRun
      (clock.sublist (List.sublist_append_right _ _)) fun hzero => by have := short hzero; omega
    exact ⟨attempts, nodeAttempts, .node tried nodeTried⟩

theorem Steps.untilLate {attempts : List (Attempt Error CertificateAuthority)}
    {nodeAttempts : List (Attempt Error Kube.Secret)}
    (h : r.Steps config pod id services u attempts nodeAttempts secret) :
    UntilLate (policy config) attempts ∧ UntilLate (policy config) nodeAttempts := by
  cases h with
  | authority tried => exact ⟨tried.untilLate, RetryPolicy.untilLate_nil⟩
  | node tried nodeTried => exact ⟨tried.untilLate, nodeTried.untilLate⟩

/-! ### A failure that every attempt meets -/

section Late

variable {validity : Duration} {now : Instant} {policy : RetryPolicy}

/-- An attempt to make an authority that would be valid for too long. It leaves a store without secrets
as it is, and does not look at the clock. -/
theorem exists_late_attempt (ns clusterName : String)
    (late : Template.window? now validity = none) :
    ∃ t, Leads (ensureAuthority ns clusterName validity) t
        (.done (.error (.signing (.validity validity)))) ∧
      Happens MemoryStore.Replies .empty t .empty ∧
      ∀ since u, Trace.KeepsTime since (Trace.right u) →
        Trace.KeepsTime since (Trace.right (t ++ u)) := by
  have hgenerate : Leads (CertificateAuthority.generate (SecretName.authority clusterName) validity)
      [⟨.random KeyPair.entropySize, Vector.replicate _ 0⟩,
        ⟨.random CertificateAuthority.serialSize, Vector.replicate _ 0⟩, ⟨.now, now⟩]
      (.done (.error (.signing (.validity validity)))) :=
    .ask <| .ask <| .ask <| Program.leads_check_error <| CertificateAuthority.selfSigned_of_late late
  exact ⟨_, Program.leads_get none (Program.leads_aside_error hgenerate),
    .cons (.get rfl) (MemoryStore.Replies.aside _ _), fun _ _ clock => clock⟩

/-- If the wait between two attempts takes as long as the timeout, there are two. -/
theorem exists_late_tried (ns clusterName : String) (late : Template.window? now validity = none)
    (htimeout : 0 < policy.timeout.nanos) (hinterval : policy.timeout.nanos ≤ policy.interval.nanos) :
    ∃ u, Tried policy (ensureAuthority ns clusterName validity) u
        [.failed (.signing (.validity validity)) ⟨0⟩,
          .failed (.signing (.validity validity)) policy.interval]
        (.error (.signing (.validity validity))) ∧
      Happens MemoryStore.Replies .empty u .empty ∧ Trace.KeepsTime 0 (Trace.right u) := by
  obtain ⟨t, run, replies, clock⟩ := exists_late_attempt ns clusterName late
  refine ⟨_, ⟨⟨0⟩, _, rfl, .again (.intro run htimeout) (.gaveUp run hinterval)⟩, ?_, ?_⟩
  · have machine := MemoryStore.Replies.aside (τ := Surroundings) .empty
    exact (machine [⟨.uptime, _⟩]).append <|
      (replies.append (machine [⟨.uptime, _⟩, ⟨.report _, _⟩, ⟨.sleep _, _⟩])).append <|
        replies.append (machine [⟨.uptime, _⟩, ⟨.report _, _⟩])
  · rw [List.append_assoc]
    refine ⟨Nat.le_refl 0, clock 0 _ ⟨Nat.le_refl 0, clock _ _ ⟨?_, trivial⟩⟩⟩
    rw [Nat.zero_add]

theorem one_le_moreAttempts (htimeout : 0 < policy.timeout.nanos)
    (hinterval : policy.timeout.nanos ≤ policy.interval.nanos) (patience : Nat) :
    1 ≤ policy.moreAttempts patience := by
  have hpositive : 0 < policy.interval.nanos := Nat.lt_of_lt_of_le htimeout hinterval
  rw [RetryPolicy.moreAttempts, if_neg (Nat.ne_of_gt hpositive), Nat.one_le_div_iff hpositive]
  omega

/-- A dry run in which no attempt can make the authority, as it would be valid for too long. -/
theorem exists_late_run {before : Trace (Kube.Api.sum Surroundings)} (dryRun : r.dryRun = true)
    (prepared : Leads r.prepare before (.done (.ok (pod, id, services))))
    (late : Template.window? now config.authorityValidity = none)
    (htimeout : 0 < config.retryTimeout.nanos)
    (hinterval : config.retryTimeout.nanos ≤ config.retryInterval.nanos) :
    let e : Error := .signing (.validity config.authorityValidity)
    ∃ u w, Leads (r.run config) (before ++ (w ++ [])) (.done (.error (.authority e))) ∧
      r.Ensures config (before ++ (w ++ [])) pod id services u (.error (.authority e)) ∧
      r.Steps config pod id services u
        [.failed e ⟨0⟩, .failed e config.retryInterval] [] (.error (.authority e)) ∧
      Trace.KeepsTime 0 (Trace.right w) := by
  intro e
  have hpositive : 0 < (policy config).timeout.nanos := htimeout
  obtain ⟨u, tried, replies, clock⟩ :=
    exists_late_tried r.ns r.cluster late hpositive hinterval
  have henough := one_le_moreAttempts hpositive hinterval UInt64.size
  have ensured : Leads (r.ensureSecrets config pod id services) u (.done (.error (.authority e))) :=
    leads_during_error (tried.leads (Nat.succ_le_succ henough))
  refine ⟨u, (Trace.right u).map .right, ?_, .intro prepared (.memory dryRun replies) ensured,
    .authority tried, by rwa [Trace.right_map_right]⟩
  rw [run_eq, List.append_nil]
  exact Leads.try prepared ((leads_withStore dryRun replies ensured).bind _)

end Late

/-- A dry run for one node. -/
def trial : EnsureRequest := ⟨"prod", "data-0", "demo", "elasticsearch.all", .empty, true⟩

/-- As many days for an authority as a variable can set, and three seconds for its attempts. -/
def endless : Config :=
  { authorityValidityDays := 2 ^ 64 - 1, retryTimeoutSeconds := 3, retryIntervalSeconds := 3 }

/-- The pod of the node. -/
def trialPod : Kube.Pod :=
  { metadata := { name := some "data-0", uid := some "uid-1" }, address := some "10.0.0.7" }

/-- The node. -/
def trialNode : NodeIdentity := ⟨"data-0", "10.0.0.7", "demo", "prod"⟩

/-- Answers in which the pod and no service are found. -/
theorem exists_prepared : ∃ before,
    Leads trial.prepare before (.done (.ok (trialPod, trialNode, []))) ∧ Trace.right before = [] := by
  let podBody := "\x7b\"metadata\":\x7b\"name\":\"data-0\",\"uid\":\"uid-1\"\x7d," ++
    "\"status\":\x7b\"podIP\":\"10.0.0.7\"\x7d\x7d"
  let servicesBody := "\x7b\"metadata\":\x7b\x7d,\"items\":[]\x7d"
  have hpod : (Json.parse? podBody).bind Kube.readPod = some trialPod := by decide +kernel
  have hservices : (Json.parse? servicesBody).bind Kube.readServices = some [] := by decide +kernel
  have podRead : Leads (Kube.getPod "prod" "data-0") [⟨.inl trial.podRequest, .ok ⟨200, podBody⟩⟩]
      (.done (Kube.Response.object Kube.readPod ⟨200, podBody⟩)) :=
    Kube.leads_getObject (by decide) (by decide +kernel) _
  have servicesListed : Leads (Kube.listServices "prod" trial.selector)
      [⟨.inl trial.servicesRequest, .ok ⟨200, servicesBody⟩⟩]
      (.done (Kube.Response.object Kube.readServices ⟨200, servicesBody⟩)) :=
    Kube.leads_send (by decide +kernel) _
  rw [Kube.Response.object, hpod] at podRead
  rw [Kube.Response.object, hservices] at servicesListed
  have prepared : Leads trial.prepare
      ([⟨.inl trial.podRequest, .ok ⟨200, podBody⟩⟩] ++
        ([⟨.inl trial.servicesRequest, .ok ⟨200, servicesBody⟩⟩] ++ []))
      (.done (.ok (trialPod, trialNode, []))) :=
    leads_during podRead <| leads_checked rfl <| leads_during servicesListed <|
      leads_checked rfl <| .refl _
  exact ⟨_, prepared, rfl⟩

/-- With so many days the authority cannot be made, and there are two attempts to make it. -/
theorem exists_trial : ∃ t pod id u,
    let e : Error := .signing (.validity endless.authorityValidity)
    Leads (trial.run endless) t (.done (.error (.authority e))) ∧
      Trace.KeepsTime 0 (Trace.right t) ∧
      trial.Ensures endless t pod id [] u (.error (.authority e)) ∧
      trial.Steps endless pod id [] u [.failed e ⟨0⟩, .failed e endless.retryInterval] []
        (.error (.authority e)) := by
  obtain ⟨before, prepared, hright⟩ := exists_prepared
  have hlate : Template.window? (.ofSeconds 1735689600) endless.authorityValidity = none := by decide
  obtain ⟨u, w, run, ensures, steps, clock⟩ :=
    exists_late_run rfl prepared hlate (by decide) (by decide)
  refine ⟨_, trialPod, trialNode, u, run, ?_, ensures, steps⟩
  rw [Trace.right_append, hright, List.append_nil]
  exact clock

/-! ### All runs -/

/-- In each step of a run an attempt that fails, for whatever reason, is the last one exactly if the
timeout has gone by since the step began. -/
theorem retries_until_late (r : EnsureRequest) (config : Config)
    {t : Trace (Kube.Api.sum Surroundings)} {result : Except CommandFault (List String)}
    (run : Leads (r.run config) t (.done result)) (clock : Trace.KeepsTime 0 (Trace.right t))
    (short : config.retryIntervalSeconds = 0 → (Trace.right t).length < UInt64.size) :
    (∃ fault, Leads r.prepare t (.done (.error fault)) ∧ result = .error fault) ∨
      ∃ pod id services u secret attempts nodeAttempts,
        r.Ensures config t pod id services u secret ∧ result = secret.map r.printed ∧
        r.Steps config pod id services u attempts nodeAttempts secret ∧
        UntilLate (policy config) attempts ∧ UntilLate (policy config) nodeAttempts := by
  obtain unprepared | ⟨pod, id, services, u, secret, ensures, rfl⟩ := exists_of_run run
  · exact .inl unprepared
  have hsub := ensures.right_sublist
  obtain ⟨attempts, nodeAttempts, steps⟩ := exists_steps ensures.ensured (clock.sublist hsub)
    fun hzero => Nat.lt_of_le_of_lt hsub.length_le (short hzero)
  exact .inr ⟨pod, id, services, u, secret, attempts, nodeAttempts, ensures, rfl, steps,
    steps.untilLate⟩

/-- In one run there are two attempts, of which the second is late. -/
theorem retries_until_late_twice :
    ∃ t result, Leads (trial.run endless) t (.done result) ∧ Trace.KeepsTime 0 (Trace.right t) ∧
      (endless.retryIntervalSeconds = 0 → (Trace.right t).length < UInt64.size) ∧
      ((∃ fault, Leads trial.prepare t (.done (.error fault)) ∧ result = .error fault) ∨
        ∃ pod id services u secret attempts nodeAttempts,
          trial.Ensures endless t pod id services u secret ∧ result = secret.map trial.printed ∧
          trial.Steps endless pod id services u attempts nodeAttempts secret ∧
          UntilLate (policy endless) attempts ∧ UntilLate (policy endless) nodeAttempts) := by
  obtain ⟨t, pod, id, u, run, clock, -⟩ := exists_trial
  have short : endless.retryIntervalSeconds = 0 → (Trace.right t).length < UInt64.size :=
    fun hzero => absurd hzero (by decide)
  exact ⟨t, _, run, clock, short, retries_until_late trial endless run clock short⟩

/-- That a failure cannot pass by itself does not make it the last: an authority that cannot be made is
tried to be made again. -/
theorem retries_permanent_failure :
    ∃ t result pod id services u secret e elapsed later,
      Leads (trial.run endless) t (.done result) ∧ Trace.KeepsTime 0 (Trace.right t) ∧
      trial.Ensures endless t pod id services u secret ∧
      trial.Steps endless pod id services u (.failed e elapsed :: later) [] secret ∧
      e.isRetryable = false ∧ later ≠ [] := by
  obtain ⟨t, pod, id, u, run, clock, ensures, steps⟩ := exists_trial
  exact ⟨t, _, pod, id, [], u, _, _, _, _, run, clock, ensures, steps, rfl, List.cons_ne_nil _ _⟩

end NodePki.EnsureRequest
