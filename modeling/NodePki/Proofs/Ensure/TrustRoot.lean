import NodePki.Proofs.Chain
import NodePki.Proofs.Ensure.Authority
import NodePki.Proofs.Ensure.NodeSecret
import NodePki.Proofs.Store.Pool

/-!
# One authority for the nodes of a cluster

Clients that ensure the secret of their cluster's authority and then, with the authority that they
were answered, that of a node. Two races follow each other: an authority that lost the first must
not sign in the second. It does not, as what the first step answers has the certificate that the
store keeps (`AuthorityCall.certificate_of_ok`), and every chain ends with the certificate of its
issuer (`CertificateAuthority.along_issue`).
-/

namespace NodePki

/-- The chain of a node's secret ends with the certificate of an authority's secret. -/
def Kube.Secret.ChainsTo (s root : Kube.Secret) : Prop :=
  ∃ chain certificate, s.octets? Entry.nodeChain = some chain ∧
    root.octets? Entry.authorityCertificate = some certificate ∧ certificate <:+ chain

/-- What a client does: the authority of a cluster, then a node with a certificate issued by it. -/
structure Enrollment where
  owner : Kube.Owner
  id : NodeIdentity
  certificateType : String
  labels : Kube.TextMap
  services : List ServiceEndpoint
  authorityValidity : Duration
  nodeValidity : Duration

namespace Enrollment

/-- The first step. -/
def authorityCall (c : Enrollment) : AuthorityCall :=
  ⟨c.id.ns, c.id.clusterName, c.authorityValidity⟩

/-- The second step, with the authority that the first answered. -/
def nodeCall (c : Enrollment) (a : CertificateAuthority) : NodeCall :=
  ⟨c.owner, c.id, c.certificateType, c.labels, a.issue c.id c.services c.nodeValidity⟩

/-- Both steps. -/
def program (c : Enrollment) : Storing (Except Error Kube.Secret) :=
  (c.authorityCall.program >>= fun a => (c.nodeCall a).program : ExceptT Error Storing Kube.Secret)

/-- What is asked in either step, and after which exchanges. -/
inductive Asks (c : Enrollment) (t : Trace (SecretStore.sum Surroundings))
    (op : (SecretStore.sum Surroundings).Op) : Prop
  | authority (asks : c.authorityCall.ensured.Asks t op)
  | node {t₁ t₂ : Trace (SecretStore.sum Surroundings)} {a : CertificateAuthority}
      (split : t = t₁ ++ t₂) (answered : c.authorityCall.ensured.Ends t₁ (.ok a))
      (asks : (c.nodeCall a).ensured.Asks t₂ op)

/-- Every run of both steps. -/
theorem along (c : Enrollment) : c.program.Along c.Asks (fun _ _ => True) [] := by
  refine Program.along_try (c.authorityCall.along.mono (fun t op => .authority) fun t r hr => ?_)
  cases r with
  | error e => trivial
  | ok a =>
    refine Program.along_iff_nil.2 ?_
    exact (c.nodeCall a).along.mono (fun u op hu => .node rfl hr hu) fun _ _ _ => trivial

variable {c : Enrollment} {m m' : MemoryStore} {s : Kube.Secret}

/-- The name of the secret of the cluster's authority. -/
def rootName (c : Enrollment) : String := SecretName.authority c.id.clusterName

/-- A node's secret chains to the authority's secret that is kept at the end. -/
theorem chainsTo_of_makes {t₁ t₂ h : Trace (SecretStore.sum Surroundings)}
    {a : CertificateAuthority} (hh : Happens MemoryStore.Replies m h m') (ht : t₁.Sublist h)
    (answered : c.authorityCall.ensured.Ends t₁ (.ok a)) (made : (c.nodeCall a).Makes t₂ s) :
    ∃ root, m'.get? c.id.ns c.rootName = some root ∧ s.ChainsTo root := by
  obtain ⟨root, hkept, hroot⟩ := AuthorityCall.certificate_of_ok hh ht answered
  refine ⟨root, hkept, ?_⟩
  cases made with
  | make valid owned issues =>
    obtain ⟨during, -, -, hissue⟩ := issues
    obtain ⟨-, -, signed, -, hchain⟩ :=
      (a.along_issue c.id c.services c.nodeValidity).ends hissue _ rfl
    refine ⟨_, _, Kube.Secret.nodeChain_ofNode, hroot, ?_⟩
    rw [hchain, Utf8.encode_append]
    exact List.suffix_append _ _

/-- What is created is an authority's secret, or chains to the one that is kept at the end. -/
theorem created_by {enrollments : List Enrollment} {h : History (SecretStore.sum Surroundings)}
    {cs' : List (Storing (Except Error Kube.Secret))}
    (hr : Interleaving MemoryStore.Replies m (enrollments.map program) h m' cs')
    (hs : s ∈ h.all.created) :
    ∃ c ∈ enrollments, s.isAt c.id.ns c.rootName ∨
      ∃ root, m'.get? c.id.ns c.rootName = some root ∧ s.ChainsTo root := by
  obtain ⟨ns, name, secret, he, hname, rfl, -⟩ := MemoryStore.kept_of_created hr.happens hs
  obtain ⟨i, p, t, u, q, hp, htu, hq⟩ := hr.asked he
  rw [List.getElem?_map, Option.map_eq_some_iff] at hp
  obtain ⟨c, hc, rfl⟩ := hp
  refine ⟨c, List.mem_of_getElem? hc, ?_⟩
  cases c.along.asked hq with
  | authority asks =>
    cases asks with
    | create made absent =>
      rw [c.authorityCall.ensured.placed made]
      obtain ⟨a, -, rfl, -⟩ := made
      exact .inl (c.authorityCall.isAt_secret a)
  | node split answered asks =>
    cases asks with
    | create made absent =>
      rw [(c.nodeCall _).ensured.placed made]
      refine .inr (chainsTo_of_makes hr.happens ?_ answered made.1)
      exact (split ▸ List.sublist_append_left _ _).trans
        ((htu ▸ List.sublist_append_left t _).trans (h.client_sublist i))

section Creating

variable {a : CertificateAuthority} (hcreate : (c.nodeCall a).CanCreate)

include hcreate

/-- After a run of the first step, the second creates the secret of the node if it can. -/
theorem exists_creating {m₁ : MemoryStore} {t : Trace (SecretStore.sum Surroundings)}
    (answered : c.authorityCall.program.Leads t (.done (.ok a)))
    (replies : Happens MemoryStore.Replies m t m₁)
    (absent : m₁.get? c.id.ns (c.nodeCall a).secretName = none) :
    ∃ u s m', c.program.Leads u (.done (.ok s)) ∧ Happens MemoryStore.Replies m u m' ∧
      m₁.Adds c.id.ns (c.nodeCall a).secretName s m' := by
  obtain ⟨v, s, created, -, happens⟩ := NodeCall.exists_creating hcreate
  obtain ⟨m', replies', added⟩ := happens m₁ absent
  exact ⟨_, s, m', answered.try created, replies.append replies', added⟩

/-- Over an empty store both secrets are created. -/
theorem exists_creating_both {during : Trace Surroundings}
    (generated : Program.Leads (CertificateAuthority.generate c.rootName c.authorityValidity) during
      (.done (.ok a))) (hname : (c.nodeCall a).secretName ≠ c.rootName) :
    ∃ u s m₁ m', c.program.Leads u (.done (.ok s)) ∧ Happens MemoryStore.Replies .empty u m' ∧
      MemoryStore.empty.Adds c.id.ns c.rootName (c.authorityCall.secret a) m₁ ∧
      m₁.Adds c.id.ns (c.nodeCall a).secretName s m' := by
  obtain ⟨t, answered, -, happens⟩ :=
    AuthorityCall.exists_creating_of_generate (c := c.authorityCall) generated
  obtain ⟨m₁, replies, added⟩ := happens .empty rfl
  obtain ⟨u, s, m', run, replies', added'⟩ :=
    exists_creating hcreate answered replies ((added.get?_of_ne hname).trans rfl)
  exact ⟨u, s, m₁, m', run, replies', added, added'⟩

/-- Over a store with the secret of an authority that was generated, that of the node is created. -/
theorem exists_creating_own {during : Trace Surroundings}
    (generated : Program.Leads (CertificateAuthority.generate c.rootName c.authorityValidity) during
      (.done (.ok a))) (kept : m.get? c.id.ns c.rootName = some (c.authorityCall.secret a))
    (absent : m.get? c.id.ns (c.nodeCall a).secretName = none) :
    ∃ u s m', c.program.Leads u (.done (.ok s)) ∧ Happens MemoryStore.Replies m u m' ∧
      m.Adds c.id.ns (c.nodeCall a).secretName s m' := by
  obtain ⟨_, -, generates, -⟩ :=
    AuthorityCall.exists_creating_of_generate (c := c.authorityCall) generated
  obtain ⟨t, answered, happens⟩ :=
    AuthorityCall.exists_loading (AuthorityCall.loads_of_generates generates).2
  exact exists_creating hcreate answered (happens m kept) absent

end Creating

/-- A node with a certificate of a type. -/
def ofType (certificateType : String) : Enrollment where
  owner := ⟨Kube.Kind.pod, { name := some "data-0", uid := some "uid-1" }⟩
  id := ⟨"data-0", "10.0.0.7", "demo", "prod"⟩
  certificateType
  labels := .empty
  services := []
  authorityValidity := .ofSeconds 86400
  nodeValidity := .ofDays 365

theorem rootName_ofType (certificateType : String) :
    (ofType certificateType).rootName = SecretName.authority "demo" := rfl

theorem secretName_ofType (certificateType : String) (a : CertificateAuthority) :
    ((ofType certificateType).nodeCall a).secretName = SecretName.node "data-0" certificateType := rfl

/-- The node gets a certificate of any legal type, by the authority with the key of octets that are all
zero. -/
theorem canCreate_ofType {certificateType certificatePem : String}
    (valid : SecretName.checkType certificateType = .ok ()) :
    ((ofType certificateType).nodeCall ⟨.ofCommonName "demo-ca",
      .ofEntropy (Vector.replicate KeyPair.entropySize 0).toList, certificatePem⟩).CanCreate :=
  ⟨valid, ⟨_, rfl⟩, CertificateAuthority.exists_leads_issue_blank certificatePem⟩

end Enrollment

/-- Clients that enrol nodes of one cluster in one namespace. -/
structure Rollout where
  ns : String
  clusterName : String
  enrollments : List Enrollment
  same : ∀ c ∈ enrollments, c.id.ns = ns ∧ c.id.clusterName = clusterName

namespace Rollout

/-- The name of the secret of the cluster's authority. -/
def rootName (r : Rollout) : String := SecretName.authority r.clusterName

/-- The clients before their first step, over any store. -/
def start (r : Rollout) (m : MemoryStore) : Pool (Except Error Kube.Secret) :=
  .start m (r.enrollments.map Enrollment.program)

/-- Whatever the order of the clients' steps, the secret of the authority is created once at most,
and every other secret that is created chains to the one that the store keeps. -/
theorem one_trust_root (r : Rollout) (m : MemoryStore) (schedule : List (Nat × Answers)) :
    let p := (r.start m).run schedule
    let created := ((r.start m).history schedule).all.created
    (created.filter (·.isAt r.ns r.rootName) =
      if (m.get? r.ns r.rootName).isSome then [] else (p.store.get? r.ns r.rootName).toList) ∧
    ∀ s ∈ created, ¬ s.isAt r.ns r.rootName →
      ∃ root, p.store.get? r.ns r.rootName = some root ∧ s.ChainsTo root := by
  have hr := (r.start m).interleaving schedule
  refine ⟨MemoryStore.created_at hr.happens _ _, fun s hs hat => ?_⟩
  obtain ⟨c, hc, hs⟩ := Enrollment.created_by hr hs
  obtain ⟨hns, hcluster⟩ := r.same c hc
  rw [Enrollment.rootName, hns, hcluster] at hs
  exact hs.resolve_left hat

/-- Two types of certificates for one node. -/
def twoTypes : Rollout where
  ns := "prod"
  clusterName := "demo"
  enrollments := [.ofType "transport", .ofType "http"]
  same := by simp [Enrollment.ofType]

/-- One after the other, the first client creates the secret of the authority, the second loads it, and
each creates that of the node. -/
theorem exists_run_twoTypes : ∃ schedule root s s',
    let p := (twoTypes.start .empty).run schedule
    p.result? 0 = some (.ok s) ∧ p.result? 1 = some (.ok s') ∧
    p.store.get? "prod" "demo-ca" = some root ∧
    p.store.get? "prod" "data-0-transport-certs" = some s ∧
    p.store.get? "prod" "data-0-http-certs" = some s' := by
  have hroot : SecretName.authority "demo" = "demo-ca" := by decide +kernel
  have htransport : SecretName.node "data-0" "transport" = "data-0-transport-certs" := by
    decide +kernel
  have hhttp : SecretName.node "data-0" "http" = "data-0-http-certs" := by decide +kernel
  obtain ⟨a, hself⟩ := CertificateAuthority.exists_selfSigned_blank
  obtain ⟨during, generated⟩ := CertificateAuthority.exists_leads_generate _ _ hself
  obtain ⟨_, _, der, -, -, ha⟩ := CertificateAuthority.exists_of_selfSigned hself
  have canCreate : ∀ certificateType, SecretName.checkType certificateType = .ok () →
      ((Enrollment.ofType certificateType).nodeCall a).CanCreate := fun certificateType valid =>
    ha ▸ Enrollment.canCreate_ofType valid
  rw [← hroot] at generated
  obtain ⟨u, s, m₁, m₂, first, firstReplies, added, firstAdded⟩ := Enrollment.exists_creating_both
    (canCreate "transport" rfl) generated (by
      rw [Enrollment.secretName_ofType, Enrollment.rootName_ofType, htransport, hroot]
      decide)
  rw [Enrollment.rootName_ofType, hroot] at added
  rw [Enrollment.secretName_ofType, htransport] at firstAdded
  let root := (Enrollment.ofType "transport").authorityCall.secret a
  have kept : m₂.get? "prod" "demo-ca" = some root :=
    (firstAdded.get?_of_ne (by decide)).trans added.get?_self
  have absent : m₂.get? "prod" "data-0-http-certs" = none := by
    rw [firstAdded.get?_of_ne (by decide), added.get?_of_ne (by decide)]
    rfl
  obtain ⟨u', s', m₃, second, secondReplies, secondAdded⟩ := Enrollment.exists_creating_own
    (canCreate "http" rfl) generated (hroot.symm ▸ kept) (by
      rwa [Enrollment.secretName_ofType, hhttp])
  rw [Enrollment.secretName_ofType, hhttp] at secondAdded
  obtain ⟨schedule, hstore, hfirst, hsecond⟩ := Pool.exists_in_turn Nat.zero_ne_one
    (show (twoTypes.enrollments.map Enrollment.program)[0]? = _ from rfl) first firstReplies
    (show (twoTypes.enrollments.map Enrollment.program)[1]? = _ from rfl) second secondReplies
  have hstore : ((twoTypes.start .empty).run schedule).store = m₃ := hstore
  refine ⟨schedule, root, s, s', hfirst, hsecond, ?_⟩
  rw [hstore]
  refine ⟨(secondAdded.get?_of_ne (by decide)).trans kept, ?_, secondAdded.get?_self⟩
  exact (secondAdded.get?_of_ne (by decide)).trans firstAdded.get?_self

/-- Both secrets chain to the one of the authority. -/
theorem one_trust_root_two_types : ∃ schedule root s s',
    let p := (twoTypes.start .empty).run schedule
    let created := ((twoTypes.start .empty).history schedule).all.created
    p.result? 0 = some (.ok s) ∧ p.result? 1 = some (.ok s') ∧
    created.filter (·.isAt "prod" "demo-ca") = [root] ∧
    s ∈ created ∧ s.isAt "prod" "data-0-transport-certs" ∧ s.ChainsTo root ∧
    s' ∈ created ∧ s'.isAt "prod" "data-0-http-certs" ∧ s'.ChainsTo root := by
  obtain ⟨schedule, root, s, s', hfirst, hsecond, hroot, hs, hs'⟩ := exists_run_twoTypes
  obtain ⟨hroots, hothers⟩ := twoTypes.one_trust_root .empty schedule
  have hname : twoTypes.rootName = "demo-ca" := by decide +kernel
  rw [hname, show twoTypes.ns = "prod" from rfl] at hroots hothers
  have hhappens := ((twoTypes.start .empty).interleaving schedule).happens
  have chains : ∀ {name s}, name ≠ "demo-ca" →
      ((twoTypes.start .empty).run schedule).store.get? "prod" name = some s →
        s ∈ ((twoTypes.start .empty).history schedule).all.created ∧ s.isAt "prod" name ∧
          s.ChainsTo root := by
    intro name s hne hs
    obtain ⟨hcreated, hat⟩ := MemoryStore.created_of_kept hhappens hs rfl
    have hnot : ¬ s.isAt "prod" "demo-ca" := by
      simp only [Kube.Secret.isAt, Bool.and_eq_true, decide_eq_true_eq] at hat ⊢
      rw [hat.2, Option.some.injEq]
      exact fun h => hne h.2
    obtain ⟨root', hroot', hchains⟩ := hothers s hcreated hnot
    rw [hroot, Option.some.injEq] at hroot'
    exact ⟨hcreated, hat, hroot' ▸ hchains⟩
  refine ⟨schedule, root, s, s', hfirst, hsecond, ?_, ?_⟩
  · rw [hroots, hroot]
    rfl
  · obtain ⟨hcreated, hat, hchains⟩ := chains (by decide) hs
    exact ⟨hcreated, hat, hchains, chains (by decide) hs'⟩

end Rollout

end NodePki
