import NodePki.Proofs.Chain
import NodePki.Proofs.Command.Attempts
import NodePki.Proofs.CommandLine.Label
import NodePki.Proofs.Ensure.ClusterIsolation
import NodePki.Proofs.Ensure.NodeSecret

/-!
# Labels of the node's secret

What becomes of the labels of the command line. The map that is made of them is given to the step for
the node, which writes the type and the pod over it (`CommandLine.areNodeLabels_ofNode`). Of the secrets
that a run creates, those with the key of a node are the ones of that step
(`EnsureRequest.makes_of_asked`), however often it is tried. So each has exactly the labels that the
texts, the type and the pod say (`CommandLine.labels_of_created`).
-/

namespace NodePki

open Program (Leads)

/-! ### What the steps create -/

namespace EnsureRequest

variable {r : EnsureRequest} {config : Config} {t : Trace (Kube.Api.sum Surroundings)}
  {u : Trace (SecretStore.sum Surroundings)} {pod : Kube.Pod} {id : NodeIdentity}
  {services : List ServiceEndpoint} {secret : Except CommandFault Kube.Secret} {s : Kube.Secret}

/-- The call of the first step. -/
def authorityCall (r : EnsureRequest) (config : Config) : AuthorityCall :=
  ⟨r.ns, r.cluster, config.authorityValidity⟩

/-- The call of the second step, with the authority of the first. -/
def nodeCall (r : EnsureRequest) (config : Config) (pod : Kube.Pod) (id : NodeIdentity)
    (services : List ServiceEndpoint) (authority : CertificateAuthority) : NodeCall where
  owner := ⟨Kube.Kind.pod, pod.metadata⟩
  id
  certificateType := r.certificateType
  labels := r.labels
  issue := authority.issue id services config.nodeValidity

/-- What is asked to be created is what one of both calls makes. -/
theorem makes_of_asked {ns : String} {answer : Except Error CreateOutcome}
    (h : Leads (r.ensureSecrets config pod id services) u (.done secret))
    (asked : ⟨.inl (.create ns s), answer⟩ ∈ u) :
    (∃ authority, s = (r.authorityCall config).secret authority) ∨
      ∃ authority v, (r.nodeCall config pod id services authority).Makes v s := by
  let x : Exchange SecretStore := ⟨.create ns s, answer⟩
  have ofAuthority : ∀ {v own}, Leads ((policy config).untilSuccess
      (r.authorityCall config).program) v (.done own) → x.left ∈ v →
        ∃ authority, s = (r.authorityCall config).secret authority := by
    intro v own run asked
    obtain ⟨v, own, run, asked⟩ := RetryPolicy.within_attempt run asked
    obtain ⟨-, -, authority, -, made, -⟩ :=
      Ensured.exists_makes_of_asked (r.authorityCall config).along run asked
    exact ⟨authority, made⟩
  obtain ⟨fault, hauthority, -⟩ | ⟨authority, u, v, rfl, hauthority, hnode⟩ := Leads.exists_of_try h
  · obtain ⟨own, run, -⟩ := exists_of_during hauthority
    exact .inl (ofAuthority run asked)
  · obtain ⟨own, run, -⟩ := exists_of_during hauthority
    obtain ⟨own', run', -⟩ := exists_of_during hnode
    rcases List.mem_append.1 asked with asked | asked
    · exact .inl (ofAuthority run asked)
    · obtain ⟨w, own, run, asked⟩ := RetryPolicy.within_attempt (x := x) run' asked
      obtain ⟨w, -, made, -⟩ := Ensured.exists_makes_of_asked
        (r.nodeCall config pod id services authority).along run asked
      exact .inr ⟨authority, w, made⟩

/-- A secret with the key of a node is created in a run of the command for a pod: a store is asked to
create it, or a store in memory keeps it then. -/
def CreatesNode (r : EnsureRequest) (config : Config) (t : Trace (Kube.Api.sum Surroundings))
    (pod : Kube.Pod) (s : Kube.Secret) : Prop :=
  ∃ id services u secret, r.Ensures config t pod id services u secret ∧
    (s.octets? Entry.nodeKey).isSome ∧
    ((∃ ns answer, ⟨.inl (.create ns s), answer⟩ ∈ u) ∨ r.dryRun = true ∧ s ∈ u.created)

theorem labels_of_asked {ns : String} {answer : Except Error CreateOutcome}
    (h : r.Ensures config t pod id services u secret)
    (asked : ⟨.inl (.create ns s), answer⟩ ∈ u) (node : (s.octets? Entry.nodeKey).isSome) :
    s.metadata.labels = some (Label.ofNode id.podName r.certificateType r.labels) := by
  obtain ⟨authority, rfl⟩ | ⟨authority, v, made⟩ := makes_of_asked h.ensured asked
  · rw [AuthorityCall.secret, Kube.Secret.nodeKey_ofAuthority] at node
    cases node
  · cases made
    rfl

/-- The secret that is created has the labels of the request, with the type and the pod. -/
theorem CreatesNode.labels_eq (h : r.CreatesNode config t pod s) : ∃ podName,
    pod.metadata.name = some podName ∧
      s.metadata.labels = some (Label.ofNode podName r.certificateType r.labels) := by
  obtain ⟨id, services, u, secret, ensures, node, created⟩ := h
  refine ⟨id.podName, ensures.podName_eq, ?_⟩
  obtain ⟨ns, answer, asked⟩ | ⟨dryRun, kept⟩ := created
  · exact labels_of_asked ensures asked node
  · obtain ⟨m, replies⟩ := ensures.replies dryRun
    obtain ⟨ns, name, posted, asked, -, rfl, -⟩ := MemoryStore.kept_of_created replies kept
    exact labels_of_asked (s := posted) ensures asked node

/-! ### Runs that create -/

/-- The first attempt of a step succeeds over a store in memory. -/
theorem exists_first_attempt {α : Type} {a : α} {operation : Storing (Except Error α)}
    {m m' : MemoryStore} (config : Config) (run : Leads operation u (.done (.ok a)))
    (replies : Happens MemoryStore.Replies m u m') :
    ∃ v, Leads ((policy config).untilSuccess operation) v (.done (.ok a)) ∧
      Happens MemoryStore.Replies m v m' := by
  refine ⟨_, RetryPolicy.leads_aside .uptime ⟨0⟩ (RetryPolicy.leads_last run), ?_⟩
  exact .cons (.other m _ _) replies

/-- Over an empty store in memory both secrets are created, if an authority is generated and can issue a
certificate. -/
theorem exists_ensured {during : Trace Surroundings} {authority : CertificateAuthority}
    (generated : Leads (CertificateAuthority.generate (r.authorityCall config).secretName
      config.authorityValidity) during (.done (.ok authority)))
    (hcreate : (r.nodeCall config pod id services authority).CanCreate)
    (hname : (r.nodeCall config pod id services authority).secretName ≠
      (r.authorityCall config).secretName) :
    ∃ u s m, Leads (r.ensureSecrets config pod id services) u (.done (.ok s)) ∧
      Happens MemoryStore.Replies .empty u m ∧ s ∈ u.created ∧
      (s.octets? Entry.nodeKey).isSome := by
  obtain ⟨u, authorityRun, -, happensAuthority⟩ :=
    AuthorityCall.exists_creating_of_generate (c := r.authorityCall config) generated
  obtain ⟨v, s, nodeRun, made, happensNode⟩ := NodeCall.exists_creating hcreate
  obtain ⟨m, authorityReplies, added⟩ := happensAuthority .empty rfl
  have absent : m.get? id.ns (r.nodeCall config pod id services authority).secretName = none :=
    added.get?_of_ne hname
  obtain ⟨m', nodeReplies, added'⟩ := happensNode m absent
  obtain ⟨u, authorityEnsured, authorityReplies⟩ :=
    exists_first_attempt config authorityRun authorityReplies
  obtain ⟨v, nodeEnsured, nodeReplies⟩ := exists_first_attempt config nodeRun nodeReplies
  have replies := authorityReplies.append nodeReplies
  refine ⟨u ++ v, s, m', leads_during authorityEnsured (nodeEnsured.bind _), replies,
    (MemoryStore.created_of_kept replies added'.get?_self rfl).1, ?_⟩
  cases made
  rw [Kube.Secret.nodeKey_ofNode]
  rfl

/-- So a dry run creates the secret of the node. -/
theorem exists_creating {before : Trace (Kube.Api.sum Surroundings)} {during : Trace Surroundings}
    {authority : CertificateAuthority} (dryRun : r.dryRun = true)
    (prepared : Leads r.prepare before (.done (.ok (pod, id, services))))
    (generated : Leads (CertificateAuthority.generate (r.authorityCall config).secretName
      config.authorityValidity) during (.done (.ok authority)))
    (hcreate : (r.nodeCall config pod id services authority).CanCreate)
    (hname : (r.nodeCall config pod id services authority).secretName ≠
      (r.authorityCall config).secretName) :
    ∃ t s, Leads (r.run config) t (.done (.ok (r.printed s))) ∧ r.CreatesNode config t pod s := by
  obtain ⟨u, s, m, ensured, replies, kept, node⟩ := exists_ensured generated hcreate hname
  obtain ⟨after, finished⟩ := exists_leads_finish r id s
  have run : Leads (r.run config) (before ++ ((Trace.right u).map .right ++ after))
      (.done (.ok (r.printed s))) := by
    rw [run_eq]
    exact Leads.try prepared (Leads.try (leads_withStore dryRun replies ensured) finished)
  exact ⟨_, s, run, id, services, u, .ok s, .intro prepared (.memory dryRun replies) ensured, node,
    .inr ⟨dryRun, kept⟩⟩

/-- One day for an authority. -/
def oneDay : Config := { authorityValidityDays := 1 }

/-- An authority with the key of octets that are all zero can issue a certificate for the node. -/
theorem exists_leads_issue (certificatePem : String) : ∃ u issued, Leads
    (CertificateAuthority.issue ⟨.ofCommonName (SecretName.authority "demo"),
      .ofEntropy (Vector.replicate KeyPair.entropySize 0).toList, certificatePem⟩
        trialNode [] oneDay.nodeValidity) u (.done (.ok issued)) := by
  have hname : SecretName.authority "demo" = "demo-ca" := by decide +kernel
  rw [hname]
  exact CertificateAuthority.exists_leads_issue_blank certificatePem

/-- A dry run for the node creates its secret, with whatever labels. -/
theorem exists_trial_creating (labels : Kube.TextMap) :
    let r := { trial with labels }
    ∃ t s, Leads (r.run oneDay) t (.done (.ok (r.printed s))) ∧
      r.CreatesNode oneDay t trialPod s := by
  intro r
  obtain ⟨before, prepared, -⟩ := exists_prepared
  have prepared : Leads r.prepare before (.done (.ok (trialPod, trialNode, []))) := prepared
  have hvalidity : .ofSeconds 86400 = oneDay.authorityValidity := by decide
  have hcall : AuthorityCall.daily "demo" = r.authorityCall oneDay :=
    congrArg (AuthorityCall.mk "prod" "demo") hvalidity
  obtain ⟨authority, hself⟩ := AuthorityCall.exists_selfSigned_daily
  rw [hcall] at hself
  obtain ⟨during, generated⟩ := CertificateAuthority.exists_leads_generate _ _ hself
  obtain ⟨_, _, der, -, -, rfl⟩ := CertificateAuthority.exists_of_selfSigned hself
  have valid : SecretName.checkType "elasticsearch.all" = .ok () := rfl
  have hname : SecretName.node "data-0" "elasticsearch.all" ≠ SecretName.authority "demo" := by
    decide +kernel
  exact exists_creating rfl prepared generated ⟨valid, ⟨_, rfl⟩, exists_leads_issue _⟩ hname

end EnsureRequest

/-! ### Which labels these are -/

namespace CommandLine

/-- The labels that texts, a pod and a type come to: those of the type and the pod, and for every other
key the value that the last text with this key gives it. -/
structure AreNodeLabels (texts : List String) (podName certificateType : String)
    (labels : Kube.TextMap) : Prop where
  ofType : labels.get? Label.certificateType = some certificateType
  ofPod : labels.get? Label.associatedPod = some podName
  others : ∀ key value, key ≠ Label.certificateType → key ≠ Label.associatedPod →
    (labels.get? key = some value ↔ LastGives (Assigns key) texts value)
  keys : ∀ key, key ∈ labels.keys ↔ key = Label.certificateType ∨ key = Label.associatedPod ∨
    ∃ text ∈ texts, ∃ value, Assigns key text value

variable {texts : List String} {labels : List (String × String)}

theorem areNodeLabels_ofNode (accepted : texts.mapM parseLabel = .ok labels)
    (podName certificateType : String) : AreNodeLabels texts podName certificateType
      (Label.ofNode podName certificateType (labelMap labels)) where
  ofType := by
    have hne : Label.certificateType ≠ Label.associatedPod := by decide
    rw [Label.get?_ofNode, if_neg hne, if_pos rfl]
  ofPod := by rw [Label.get?_ofNode, if_pos rfl]
  others key value htype hpod := by
    rw [Label.get?_ofNode, if_neg hpod, if_neg htype, get?_labelMap_iff accepted]
  keys key := by
    have hextra : ((labelMap labels).get? key).isSome ↔ ∃ text ∈ texts, ∃ value,
        Assigns key text value := by
      rw [Option.isSome_iff_exists, ← exists_lastGives_iff]
      exact exists_congr fun value => get?_labelMap_iff accepted
    rw [Dict.mem_keys_iff, Dict.contains, Label.get?_ofNode, ← hextra]
    split
    · next hpod => simp [hpod]
    · next hpod =>
      split
      · next htype => simp [htype]
      · next htype => simp [hpod, htype]

/-- What the ensure command is asked for. What is not said on the command line is as configured. -/
def ensureRequest (ns : Option String) (pod cluster : String) (certificateType : Option String)
    (labels : List (String × String)) (dryRun : Bool) (config : Config) : EnsureRequest where
  ns := ns.getD config.defaultNamespace
  pod
  cluster
  certificateType := certificateType.getD config.certificateType
  labels := labelMap labels
  dryRun

/-- A text is accepted unless it has no equals sign, or begins with one. Whatever texts were accepted, and
whatever pod is found, a secret that is created for the node has the labels of the texts, the type and the
pod, and no others. -/
theorem labels_of_created {ns certificateType : Option String} {pod cluster : String} {dryRun : Bool}
    {config : Config} {t : Trace (Kube.Api.sum Surroundings)}
    {result : Except CommandFault (List String)}
    (accepted : texts.mapM parseLabel = .ok labels)
    (run : Leads ((Invocation.mk ns (.ensure pod cluster certificateType labels dryRun)).run config) t
      (.done result)) :
    let r := ensureRequest ns pod cluster certificateType labels dryRun config
    (∀ text, (∃ complaint, parseLabel text = .error complaint) ↔
      '=' ∉ text.toList ∨ text.toList.head? = some '=') ∧
    ((∃ fault, Leads r.prepare t (.done (.error fault)) ∧ result = .error fault) ∨
      ∃ found id services u secret, r.Ensures config t found id services u secret ∧
        result = secret.map r.printed) ∧
    ∀ found s, r.CreatesNode config t found s → ∃ podName nodeLabels,
      found.metadata.name = some podName ∧ s.metadata.labels = some nodeLabels ∧
      AreNodeLabels texts podName (certificateType.getD config.certificateType) nodeLabels := by
  intro r
  refine ⟨fun text => ?_, EnsureRequest.exists_of_run run, fun found s creates => ?_⟩
  · simp [parseLabel_eq_error_iff]
  · obtain ⟨podName, hname, hlabels⟩ := creates.labels_eq
    exact ⟨podName, _, hname, hlabels, areNodeLabels_ofNode accepted podName _⟩

/-- A key that is given twice, that of the pod, a value with an equals sign in it, and an empty one. -/
theorem labels_of_created_repeated :
    let texts := ["team=search", "nodecerts.k8s.node-certs.io/associated-pod=someone-else",
      "team=a=b", "empty="]
    let labels := [("team", "search"), (Label.associatedPod, "someone-else"), ("team", "a=b"),
      ("empty", "")]
    ∃ t result s nodeLabels, texts.mapM parseLabel = .ok labels ∧
      Leads ((Invocation.mk (some "prod") (.ensure "data-0" "demo" none labels true)).run
        EnsureRequest.oneDay) t (.done result) ∧
      (ensureRequest (some "prod") "data-0" "demo" none labels true
        EnsureRequest.oneDay).CreatesNode EnsureRequest.oneDay t EnsureRequest.trialPod s ∧
      s.metadata.labels = some nodeLabels ∧
      AreNodeLabels texts "data-0" "elasticsearch.all" nodeLabels := by
  intro texts labels
  obtain ⟨t, s, run, creates⟩ := EnsureRequest.exists_trial_creating (labelMap labels)
  have accepted : texts.mapM parseLabel = .ok labels := by decide +kernel
  have run : Leads ((Invocation.mk (some "prod") (.ensure "data-0" "demo" none labels true)).run
      EnsureRequest.oneDay) t (.done (.ok _)) := run
  obtain ⟨-, -, created⟩ := labels_of_created accepted run
  obtain ⟨podName, nodeLabels, hpod, hlabels, areLabels⟩ := created _ s creates
  cases hpod
  exact ⟨t, _, s, nodeLabels, accepted, run, creates, hlabels, areLabels⟩

end CommandLine

end NodePki
