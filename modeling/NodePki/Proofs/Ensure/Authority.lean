import NodePki.Proofs.Authority
import NodePki.Proofs.Ensure.Basic
import NodePki.Proofs.Secret.Content
import NodePki.Proofs.Secret.Name

/-!
# Ensuring the secret of an authority

A call for the secret of a cluster's authority ensures a secret in the sense of `Ensured`
(`AuthorityCall.along`). What it generates and what its secret is loaded back to are the same
(`AuthorityCall.loads_of_generates`), so over a store in memory the authority that it answers is
the one that the secret is loaded to which is kept at the end (`AuthorityCall.loaded_of_ok`): an
authority that was generated for nothing is not answered.
-/

namespace NodePki

/-- A secret is loaded to an authority if both of its texts are there and can be loaded. -/
theorem authorityOfSecret_eq_ok_iff {s : Kube.Secret} {name : String} {a : CertificateAuthority} :
    authorityOfSecret s name = .ok a ↔ ∃ certificatePem keyPem,
      s.octets? Entry.authorityCertificate = some (Utf8.encode certificatePem) ∧
        s.octets? Entry.authorityKey = some (Utf8.encode keyPem) ∧
        CertificateAuthority.ofPem certificatePem keyPem = .ok a := by
  simp only [authorityOfSecret, bind_eq_ok_iff, Kube.Secret.text_eq_ok, exists_and_left]

/-- A call that ensures the secret of a cluster's authority. -/
structure AuthorityCall where
  ns : String
  clusterName : String
  validity : Duration

namespace AuthorityCall

/-- What the call does. -/
def program (c : AuthorityCall) : ExceptT Error Storing CertificateAuthority :=
  ensureAuthority c.ns c.clusterName c.validity

/-- The name of the secret that the call ensures. -/
def secretName (c : AuthorityCall) : String := SecretName.authority c.clusterName

/-- The secret of an authority. -/
def secret (c : AuthorityCall) (a : CertificateAuthority) : Kube.Secret :=
  .ofAuthority c.secretName c.ns c.clusterName a.certificatePem a.keyPem

theorem isAt_secret (c : AuthorityCall) (a : CertificateAuthority) :
    (c.secret a).isAt c.ns c.secretName := by
  simp [secret, Kube.Secret.isAt, Kube.Secret.ofAuthority]

/-- The call can generate an authority. -/
def CanGenerate (c : AuthorityCall) : Prop :=
  ∃ u a, Program.Leads (CertificateAuthority.generate c.secretName c.validity) u (.done (.ok a))

/-- After it had read that there is no secret, the call generated an authority. -/
def Generates (c : AuthorityCall) (t : Trace (SecretStore.sum Surroundings))
    (r : Except Error CertificateAuthority) : Prop :=
  Program.Follows (CertificateAuthority.generate c.secretName c.validity)
    (⟨.get c.ns c.secretName, .ok none⟩ : Exchange SecretStore) t r

/-- What the call ensures. The authority that it generated is the answer if its secret is
created. -/
def ensured (c : AuthorityCall) : Ensured CertificateAuthority where
  ns := c.ns
  name := c.secretName
  Refuses _ := False
  Fails t e := c.Generates t (.error e)
  Makes t secret f := ∃ a, c.Generates t (.ok a) ∧ secret = c.secret a ∧ f = fun _ => a
  judge s := authorityOfSecret s c.secretName
  named := by
    rintro t secret f ⟨a, -, rfl, -⟩
    rfl
  placed := by
    rintro t secret f ⟨a, -, rfl, -⟩
    rfl
  append := by
    rintro t secret f ⟨a, generates, rfl, rfl⟩ u
    exact ⟨a, generates.append u, rfl, rfl⟩

variable {c : AuthorityCall} {t : Trace (SecretStore.sum Surroundings)} {s : Kube.Secret}

theorem along_judge {u : Trace (SecretStore.sum Surroundings)}
    (h : c.ensured.Ends u (authorityOfSecret s c.secretName)) :
    Program.Along c.ensured.Asks c.ensured.Ends u
      (liftM (authorityOfSecret s c.secretName) : ExceptT Error Storing CertificateAuthority) :=
  (Program.along_done _).2 h

/-- Every run of the call. -/
theorem along (c : AuthorityCall) : Program.Along c.ensured.Asks c.ensured.Ends [] c.program := by
  have machine : ∀ t op, c.ensured.Asks t (.inr op) := fun _ op => .machine op
  refine Program.along_get (.read rfl) (fun e => .unread rfl) fun existing => ?_
  cases existing with
  | some s =>
    refine Program.along_report machine fun u => along_judge (.found ?_ rfl)
    exact Trace.left_aside (Trace.left_ask rfl _ _) u
  | none =>
    have generates : ∀ u r, Program.Leads (CertificateAuthority.generate c.secretName c.validity) u
        (.done r) → c.Generates ([(c.ensured.read (.ok none)).left] ++ u.map .right) r :=
      fun u r hu => hu.follows _
    refine Program.along_aside machine (fun u e hu => .unmade (generates u _ hu) ?_)
      fun u a hu => ?_
    · exact Trace.left_aside (Trace.left_ask rfl _ _) u
    have made : c.ensured.Makes _ (c.secret a) fun _ => a := ⟨a, generates u _ hu, rfl, rfl⟩
    have absent : Trace.left ([(c.ensured.read (.ok none)).left] ++ u.map .right) =
        [c.ensured.read (.ok none)] := Trace.left_aside rfl u
    refine Program.along_create (.create made absent) (fun e => ?_) fun o => ?_
    · exact .uncreated (c.ensured.append made _) (Trace.left_ask absent _ _)
    cases o with
    | created s =>
      refine Program.along_report machine fun u' => Program.along_return ?_
      refine .created (s := s) (f := fun _ => a) (c.ensured.append (c.ensured.append made _) _) ?_
      exact Trace.left_aside (Trace.left_ask absent _ _) u'
    | alreadyExists =>
      exact Ensured.along_reread (E := c.ensured) (c.ensured.append made _)
        (Trace.left_ask absent _ _) fun u s => along_judge

/-- A call that finds a secret which can be loaded has a run to its end. -/
theorem exists_loading {a : CertificateAuthority}
    (hload : authorityOfSecret s c.secretName = .ok a) :
    ∃ t, c.program.Leads t (.done (.ok a)) ∧
      ∀ m : MemoryStore, m.get? c.ns c.secretName = some s →
        Happens MemoryStore.Replies m t m := by
  have hloads : Program.Leads (liftM (authorityOfSecret s c.secretName) :
      ExceptT Error Storing CertificateAuthority) [] (.done (.ok a)) := by
    rw [hload]
    exact .refl _
  have hrun : c.program.Leads _ (.done (.ok a)) :=
    Program.leads_get (some s) <| Program.leads_report hloads
  exact ⟨_, hrun, fun m hm => .cons (.get hm) (.cons (.other m _ _) (.nil m))⟩

/-- A call that finds no secret, and generates an authority, has a run to its end. -/
theorem exists_creating_of_generate {u : Trace Surroundings} {a : CertificateAuthority}
    (hgenerate : Program.Leads (CertificateAuthority.generate c.secretName c.validity) u
      (.done (.ok a))) :
    ∃ t, c.program.Leads t (.done (.ok a)) ∧ c.Generates t (.ok a) ∧
      ∀ m : MemoryStore, m.get? c.ns c.secretName = none →
        ∃ m', Happens MemoryStore.Replies m t m' ∧ m.Adds c.ns c.secretName (c.secret a) m' := by
  have hrun : c.program.Leads _ (.done (.ok a)) :=
    Program.leads_get none <| Program.leads_aside hgenerate <|
      Program.leads_create (.created (c.secret a)) <| Program.leads_report <| .refl _
  refine ⟨_, hrun, ⟨u, _, rfl, hgenerate⟩, fun m hm => ?_⟩
  refine ⟨_, .cons (.get hm) ((MemoryStore.Replies.aside m u).append
    (.cons (.created rfl hm) (.cons (.other _ _ _) (.nil _)))), fun ns name => ?_⟩
  rw [MemoryStore.get?_insert]
  rfl

/-- A call that finds no secret, and can generate an authority, has a run to its end. -/
theorem exists_creating (hcan : c.CanGenerate) :
    ∃ t a, c.program.Leads t (.done (.ok a)) ∧ c.Generates t (.ok a) ∧
      ∀ m : MemoryStore, m.get? c.ns c.secretName = none →
        ∃ m', Happens MemoryStore.Replies m t m' ∧ m.Adds c.ns c.secretName (c.secret a) m' := by
  obtain ⟨u, a, hgenerate⟩ := hcan
  obtain ⟨t, hcreating⟩ := exists_creating_of_generate hgenerate
  exact ⟨t, a, hcreating⟩

/-- The names of secrets are short enough for new authorities. -/
theorem length_secretName_lt (c : AuthorityCall) :
    (Utf8.encode c.secretName).length < UInt32.size := by
  have hlength := SecretName.length_sanitize_le (c.clusterName ++ "-ca")
  have hoctets := Utf8.length_encode_le c.secretName
  rw [secretName, SecretName.authority] at hoctets ⊢
  simp only [SecretName.maxLength, UInt32.size] at hlength ⊢
  omega

/-- An authority that was generated is the one that its secret is loaded back to, and is named like
the secret. -/
theorem loads_of_generates {a : CertificateAuthority} (h : c.Generates t (.ok a)) :
    a.issuer = .ofCommonName c.secretName ∧
      authorityOfSecret (c.secret a) c.secretName = .ok a := by
  obtain ⟨during, -, -, hrun⟩ := h
  obtain ⟨hissuer, hload⟩ := CertificateAuthority.ofPem_of_generate hrun c.length_secretName_lt
  exact ⟨hissuer, authorityOfSecret_eq_ok_iff.2 ⟨a.certificatePem, a.keyPem,
    Kube.Secret.authorityCertificate_ofAuthority, Kube.Secret.authorityKey_ofAuthority, hload⟩⟩

/-- What the call makes is loaded back to what it answers for it. -/
theorem judge_of_makes {f : Kube.Secret → CertificateAuthority} (h : c.ensured.Makes t s f) :
    c.ensured.judge s = .ok (f s) := by
  obtain ⟨a, generates, rfl, rfl⟩ := h
  exact (loads_of_generates generates).2

/-- The authority that is answered is the one that the secret which is kept at the end is loaded
to. -/
theorem loaded_of_ok {m m' : MemoryStore} {h : Trace (SecretStore.sum Surroundings)}
    {a : CertificateAuthority} (hh : Happens MemoryStore.Replies m h m') (ht : t.Sublist h)
    (hends : c.ensured.Ends t (.ok a)) :
    ∃ root, m'.get? c.ns c.secretName = some root ∧
      authorityOfSecret root c.secretName = .ok a := by
  obtain ⟨root, hkept, hjudge | ⟨f, made, rfl⟩⟩ := Ensured.kept_of_ok hh ht hends
  · exact ⟨root, hkept, hjudge⟩
  · exact ⟨root, hkept, judge_of_makes made⟩

/-- An authority that is answered where there was no secret was generated, by a call for the same
name. -/
theorem generated_of_ok {calls : List AuthorityCall} {m m' : MemoryStore} {i : Nat}
    {h : History (SecretStore.sum Surroundings)}
    {cs' : List (Storing (Except Error CertificateAuthority))} {a : CertificateAuthority}
    (hr : Interleaving MemoryStore.Replies m (calls.map program) h m' cs')
    (hc : calls[i]? = some c) (hi : cs'[i]? = some (.done (.ok a)))
    (hnone : m.get? c.ns c.secretName = none) :
    ∃ c₀ ∈ calls, c₀.ns = c.ns ∧ c₀.secretName = c.secretName ∧ ∃ t, c₀.Generates t (.ok a) := by
  obtain ⟨root, hkept, hload⟩ :=
    loaded_of_ok hr.happens (h.client_sublist i) (Ensured.ends along hr hc hi)
  -- what the secret is loaded to is what the call generated that created it
  obtain ⟨k, c₀, f, hc₀, ⟨a₀, generates, rfl, -⟩, -, hns, hname⟩ :=
    Ensured.made_of_kept along hr hkept hnone
  obtain ⟨-, hload₀⟩ := loads_of_generates generates
  rw [show c₀.secretName = c.secretName from hname, hload, Except.ok.injEq] at hload₀
  subst hload₀
  exact ⟨c₀, List.mem_of_getElem? hc₀, hns, hname, _, generates⟩

/-- The authority that is answered has the certificate of the secret that is kept at the end. -/
theorem certificate_of_ok {m m' : MemoryStore} {h : Trace (SecretStore.sum Surroundings)}
    {a : CertificateAuthority} (hh : Happens MemoryStore.Replies m h m') (ht : t.Sublist h)
    (hends : c.ensured.Ends t (.ok a)) :
    ∃ root, m'.get? c.ns c.secretName = some root ∧
      root.octets? Entry.authorityCertificate = some (Utf8.encode a.certificatePem) := by
  obtain ⟨root, hkept, hload⟩ := loaded_of_ok hh ht hends
  obtain ⟨certificatePem, keyPem, hcertificate, -, hload⟩ := authorityOfSecret_eq_ok_iff.1 hload
  rw [(CertificateAuthority.ofPem_eq_ok_iff.1 hload).1]
  exact ⟨root, hkept, hcertificate⟩

/-- A call for an authority that is valid for a day. -/
def daily (clusterName : String) : AuthorityCall := ⟨"prod", clusterName, .ofSeconds 86400⟩

/-- Of octets that are all zero the call generates an authority. -/
theorem exists_selfSigned_daily : ∃ a, CertificateAuthority.selfSigned (daily "demo").secretName
    (daily "demo").validity (.ofEntropy (Vector.replicate KeyPair.entropySize 0).toList)
    (CertificateAuthority.serialOf (Vector.replicate CertificateAuthority.serialSize 0).toList)
    (.ofSeconds 1735689600) = .ok a := by
  have hname : (daily "demo").secretName = "demo-ca" := by decide
  rw [hname]
  exact CertificateAuthority.exists_selfSigned_blank

theorem canGenerate_daily : (daily "demo").CanGenerate := by
  obtain ⟨a, hself⟩ := exists_selfSigned_daily
  obtain ⟨u, hu⟩ := CertificateAuthority.exists_leads_generate _ _ hself
  exact ⟨u, a, hu⟩

end AuthorityCall

end NodePki
