import NodePki.Proofs.Ensure.Basic
import NodePki.Proofs.Program.Interleaving
import NodePki.Proofs.Secret.Content

/-!
# Ensuring the secret of a node

A call for a node's secret ensures a secret in the sense of `Ensured`, with any store
(`NodeCall.along`). Any calls, in any number and order, over a store in memory: what they create is
what they make (`NodeCall.created_by`), a call that succeeds answers the secret that is kept under
its name (`NodeCall.kept_of_ok`), and the reasons for a failure are four (`NodeCall.Fails`).
-/

namespace NodePki

/-- A call that ensures the secret of a node. -/
structure NodeCall where
  owner : Kube.Owner
  id : NodeIdentity
  certificateType : String
  labels : Kube.TextMap
  issue : ExceptT Error (Program Surroundings) IssuedCertificate

namespace NodeCall

/-- What the call does. -/
def program (c : NodeCall) : Storing (Except Error Kube.Secret) :=
  ensureNodeSecret c.owner c.id c.certificateType c.labels c.issue

/-- The name of the secret that the call ensures. -/
def secretName (c : NodeCall) : String := SecretName.node c.id.podName c.certificateType

/-- After it had read that there is no secret, the call ran `issue`, which came to `r`. -/
def Issues (c : NodeCall) (t : Trace (SecretStore.sum Surroundings))
    (r : Except Error IssuedCertificate) : Prop :=
  Program.Follows c.issue (⟨.get c.id.ns c.secretName, .ok none⟩ : Exchange SecretStore) t r

/-- A secret is what the call creates: type and owner are fit for it, and its key and chain are what
`issue` came to. -/
inductive Makes (c : NodeCall) (t : Trace (SecretStore.sum Surroundings)) : Kube.Secret → Prop
  | make {reference : Kube.OwnerReference} {issued : IssuedCertificate}
      (valid : SecretName.checkType c.certificateType = .ok ())
      (owned : ownerReference c.owner c.secretName = .ok reference)
      (issues : c.Issues t (.ok issued)) :
      Makes c t (.ofNode c.secretName c.id.ns c.id.podName c.certificateType c.labels reference
        issued)

/-- The call creates a secret in some run over a store without it. -/
def CanCreate (c : NodeCall) : Prop :=
  SecretName.checkType c.certificateType = .ok () ∧
    (∃ reference, ownerReference c.owner c.secretName = .ok reference) ∧
    ∃ u issued, Program.Leads c.issue u (.done (.ok issued))

variable {c : NodeCall} {t : Trace (SecretStore.sum Surroundings)} {s secret : Kube.Secret}
  {e : Error}

theorem Makes.append (h : c.Makes t secret) (u : Trace (SecretStore.sum Surroundings)) :
    c.Makes (t ++ u) secret := by
  cases h with
  | make valid owned issues => exact .make valid owned (Program.Follows.append issues u)

theorem Makes.isAt (h : c.Makes t s) : s.isAt c.id.ns c.secretName := by
  cases h
  simp [Kube.Secret.isAt, Kube.Secret.ofNode]

theorem Makes.canCreate (h : c.Makes t s) : c.CanCreate := by
  cases h with
  | make valid owned issues =>
    obtain ⟨during, -, -, hissue⟩ := issues
    exact ⟨valid, ⟨_, owned⟩, during, _, hissue⟩

/-- What the call makes of a secret that there is. -/
def judge (c : NodeCall) (s : Kube.Secret) : Except Error Kube.Secret :=
  (s.checkNode c.secretName c.certificateType).map fun _ => s

theorem judge_eq_ok {s' : Kube.Secret} :
    c.judge s = .ok s' ↔ s.checkNode c.secretName c.certificateType = .ok () ∧ s = s' := by
  unfold judge
  cases s.checkNode c.secretName c.certificateType <;> simp [Except.map]

theorem judge_eq_error :
    c.judge s = .error e ↔ s.checkNode c.secretName c.certificateType = .error e := by
  unfold judge
  cases s.checkNode c.secretName c.certificateType <;> simp [Except.map]

/-- What the call ensures. -/
def ensured (c : NodeCall) : Ensured Kube.Secret where
  ns := c.id.ns
  name := c.secretName
  Refuses e := SecretName.checkType c.certificateType = .error e
  Fails t e := ownerReference c.owner c.secretName = .error e ∨ c.Issues t (.error e)
  Makes t secret f := c.Makes t secret ∧ f = fun s => s
  judge := c.judge
  named := by
    rintro t secret f ⟨⟨⟩, -⟩
    rfl
  placed := by
    rintro t secret f ⟨⟨⟩, -⟩
    rfl
  append h u := ⟨h.1.append u, h.2⟩

/-- A secret that there is is checked, and answered if it passes. -/
theorem along_judge (h : c.ensured.Ends t (c.judge s)) :
    Program.Along c.ensured.Asks c.ensured.Ends t (do
      s.checkNode c.secretName c.certificateType
      return s : ExceptT Error Storing Kube.Secret) := by
  refine Program.along_check (fun e he => ?_) fun _ hok => ?_
  · rwa [judge_eq_error.2 he] at h
  · rw [judge_eq_ok.2 ⟨hok, rfl⟩] at h
    exact Program.along_return h

/-- Every run of the call. -/
theorem along (c : NodeCall) : c.program.Along c.ensured.Asks c.ensured.Ends [] := by
  have machine : ∀ t op, c.ensured.Asks t (.inr op) := fun _ op => .machine op
  refine Program.along_check (fun e he => .refused he rfl) fun _ valid => ?_
  refine Program.along_get (.read rfl) (fun e => .unread rfl) fun existing => ?_
  cases existing with
  | some s =>
    refine Program.along_report machine fun u => along_judge (.found ?_ rfl)
    exact Trace.left_aside (Trace.left_ask rfl _ _) u
  | none =>
    refine Program.along_check (fun e he => .unmade (.inl he) rfl) fun reference owned => ?_
    refine Program.along_aside machine (fun u e hu => .unmade (.inr (hu.follows _)) ?_)
      fun u issued hu => ?_
    · exact Trace.left_aside (Trace.left_ask rfl _ _) u
    have made : c.Makes _ _ := .make valid owned (hu.follows _)
    have absent : Trace.left ([(c.ensured.read (.ok none)).left] ++ u.map .right) =
        [c.ensured.read (.ok none)] := Trace.left_aside rfl u
    refine Program.along_create (.create ⟨made, rfl⟩ absent) (fun e => ?_) fun o => ?_
    · exact .uncreated ⟨made.append _, rfl⟩ (Trace.left_ask absent _ _)
    cases o with
    | created s =>
      refine Program.along_report machine fun u' => Program.along_return ?_
      refine .created (f := fun s => s) ⟨(made.append _).append _, rfl⟩ ?_
      exact Trace.left_aside (Trace.left_ask absent _ _) u'
    | alreadyExists =>
      refine Program.along_report machine fun u' => Ensured.along_reread
        (E := c.ensured) ⟨(made.append _).append _, rfl⟩ ?_ fun u s => along_judge
      exact Trace.left_aside (Trace.left_ask absent _ _) u'

/-- A call that finds a secret that passes its check has a run to its end. -/
theorem exists_finding (valid : SecretName.checkType c.certificateType = .ok ())
    (hcheck : s.checkNode c.secretName c.certificateType = .ok ()) :
    ∃ t, c.program.Leads t (.done (.ok s)) ∧
      ∀ m : MemoryStore, m.get? c.id.ns c.secretName = some s →
        Happens MemoryStore.Replies m t m := by
  have hrun : c.program.Leads _ (.done (.ok s)) :=
    Program.leads_check valid <| Program.leads_get (some s) <|
      Program.leads_report <| Program.leads_check hcheck <| .refl _
  exact ⟨_, hrun, fun m hm => .cons (.get hm) (.cons (.other m _ _) (.nil m))⟩

/-- A call that finds no secret, and can create one, has a run to its end. -/
theorem exists_creating (hcreate : c.CanCreate) :
    ∃ t s, c.program.Leads t (.done (.ok s)) ∧ c.Makes t s ∧
      ∀ m : MemoryStore, m.get? c.id.ns c.secretName = none →
        ∃ m', Happens MemoryStore.Replies m t m' ∧ m.Adds c.id.ns c.secretName s m' := by
  obtain ⟨valid, ⟨reference, owned⟩, u, issued, hissue⟩ := hcreate
  let s : Kube.Secret := .ofNode c.secretName c.id.ns c.id.podName c.certificateType c.labels
    reference issued
  have hrun : c.program.Leads _ (.done (.ok s)) :=
    Program.leads_check valid <| Program.leads_get none <| Program.leads_check owned <|
      Program.leads_aside hissue <| Program.leads_create (.created s) <|
        Program.leads_report <| .refl _
  refine ⟨_, s, hrun, ?_, fun m hm => ?_⟩
  · exact .make valid owned ⟨u, _, rfl, hissue⟩
  · refine ⟨_, .cons (.get hm) ((MemoryStore.Replies.aside m u).append
      (.cons (.created rfl hm) (.cons (.other _ _ _) (.nil _)))), fun ns name => ?_⟩
    rw [MemoryStore.get?_insert]
    rfl

/-- All that the call has asked the store is for its secret, of which there was none. -/
def ReadNone (c : NodeCall) (t : Trace (SecretStore.sum Surroundings)) : Prop :=
  t.left = [⟨.get c.id.ns c.secretName, .ok none⟩]

/-- Why a call fails over a store that keeps what it was given: what it was called with, either before
it asks the store anything or once it has read that there is no secret, or the secret that is kept. -/
inductive Fails (c : NodeCall) (t : Trace (SecretStore.sum Surroundings)) (m : MemoryStore)
    (e : Error) : Prop
  | refused (invalid : SecretName.checkType c.certificateType = .error e) (unasked : t.left = [])
  | unowned (unowned : ownerReference c.owner c.secretName = .error e) (absent : c.ReadNone t)
  | unissued (unissued : c.Issues t (.error e)) (absent : c.ReadNone t)
  | judged {s : Kube.Secret} (kept : m.get? c.id.ns c.secretName = some s)
      (judged : s.checkNode c.secretName c.certificateType = .error e)

section Together

variable {calls : List NodeCall} {m m' : MemoryStore} {i : Nat}
  {h : History (SecretStore.sum Surroundings)} {cs' : List (Storing (Except Error Kube.Secret))}

/-- What is created is what a call makes, under the name of that call. -/
theorem created_by (hr : Interleaving MemoryStore.Replies m (calls.map program) h m' cs')
    (hs : s ∈ h.all.created) :
    ∃ i, ∃ c : NodeCall, calls[i]? = some c ∧ c.Makes (h.client i) s ∧
      m'.get? c.id.ns c.secretName = some s := by
  obtain ⟨i, c, f, hc, made, -, hkept⟩ := Ensured.created_by along hr hs
  exact ⟨i, c, hc, made.1, hkept⟩

/-- Over the empty store a kept secret is what a call made that is for its name. -/
theorem made_of_kept (hr : Interleaving MemoryStore.Replies .empty (calls.map program) h m' cs')
    {ns name : String} (hs : m'.get? ns name = some s) :
    ∃ i, ∃ c : NodeCall, calls[i]? = some c ∧ c.Makes (h.client i) s ∧ c.id.ns = ns ∧
      c.secretName = name := by
  obtain ⟨i, c, f, hc, made, -, hns, hname⟩ := Ensured.made_of_kept along hr hs rfl
  exact ⟨i, c, hc, made.1, hns, hname⟩

/-- Who succeeds answers the secret that is kept under the name of the call, which passes its
check. -/
theorem kept_of_ok (hr : Interleaving MemoryStore.Replies m (calls.map program) h m' cs')
    (hc : calls[i]? = some c) (hi : cs'[i]? = some (.done (.ok s))) :
    m'.get? c.id.ns c.secretName = some s ∧
      s.checkNode c.secretName c.certificateType = .ok () := by
  obtain ⟨s', hkept, hjudge | ⟨f, ⟨made, rfl⟩, rfl⟩⟩ :=
    Ensured.kept_of_ok hr.happens (h.client_sublist i) (Ensured.ends along hr hc hi)
  · obtain ⟨hcheck, rfl⟩ := judge_eq_ok.1 hjudge
    exact ⟨hkept, hcheck⟩
  · cases made
    exact ⟨hkept, Kube.Secret.checkNode_ofNode _⟩

/-- Who fails does so for a reason of its own, or for the secret that is kept. -/
theorem fails_of_error (hr : Interleaving MemoryStore.Replies m (calls.map program) h m' cs')
    (hc : calls[i]? = some c) (hi : cs'[i]? = some (.done (.error e))) :
    c.Fails (h.client i) m' e := by
  rcases Ensured.cause_of_error hr.happens (h.client_sublist i) (Ensured.ends along hr hc hi) with
    ⟨invalid, unasked⟩ | ⟨unowned | unissued, absent⟩ | ⟨s, kept, judged⟩
  · exact .refused invalid unasked
  · exact .unowned unowned absent
  · exact .unissued unissued absent
  · exact .judged kept (judge_eq_error.1 judged)

end Together

/-- A call for a pod, with an owner that can be mentioned and a certificate at hand. -/
def prepared (podName : String) : NodeCall where
  owner := ⟨Kube.Kind.pod, { name := some podName, uid := some "uid-1" }⟩
  id := ⟨podName, "10.0.0.7", "search", "prod"⟩
  certificateType := "elasticsearch.all"
  labels := .empty
  issue := pure ⟨"key of " ++ podName, "chain of " ++ podName⟩

theorem canCreate_prepared (podName : String) : (prepared podName).CanCreate :=
  ⟨show SecretName.checkType "elasticsearch.all" = .ok () from rfl, ⟨_, rfl⟩, [], _, .refl _⟩

end NodeCall

end NodePki
