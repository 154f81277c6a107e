import NodePki.Proofs.Ensure.Material
import NodePki.Proofs.Ensure.Protocol

/-!
# Calls again

A call for a node's secret that comes after one has succeeded answers the same secret, whatever it is
called with apart from the name and the type (`EnsureCall.onlyFinds_of_ok`): nothing that any call does
takes the secret away or changes it, and what passed the check of the first call passes that of the
next, which is met before the owner is looked at or a certificate is asked for. So the answers that the
next call gets are certain (`NodeCall.certain_finding`), and its run is the shortest that there is.
-/

namespace NodePki

namespace NodeCall

variable {c : NodeCall} {s : Kube.Secret} {r : Except Error Kube.Secret}
  {u : Trace (SecretStore.sum Caller)}

/-- The exchanges of a call that finds a secret. -/
def finding (c : NodeCall) (s : Kube.Secret) : Trace (SecretStore.sum Surroundings) :=
  [⟨.inl (.get c.id.ns c.secretName), .ok (some s)⟩, ⟨.inr (.report c.foundEvent), ()⟩]

theorem leads_finding (valid : SecretName.checkType c.certificateType = .ok ())
    (fits : s.FitsNode c.certificateType) : c.program.Leads (c.finding s) (.done (.ok s)) :=
  Program.leads_check valid <| Program.leads_get (some s) <| Program.leads_report <|
    Program.leads_check ((Kube.Secret.checkNode_eq_ok_iff _).2 fits) <| .refl _

/-- While the secret is kept, the answers are certain. -/
theorem certain_finding (c : NodeCall) (s : Kube.Secret) :
    ∀ e ∈ c.finding s, Pool.Certain (fun m => m.get? c.id.ns c.secretName = some s) e := by
  refine List.forall_mem_cons.2 ⟨?_, List.forall_mem_singleton.2 fun _ _ _ _ _ => rfl⟩
  rintro m answer m' kept hr
  rw [(MemoryStore.Replies.store_iff.1 hr).1, MemoryStore.answer, kept]

/-- In a run of a call that came to `r` a certificate was asked for `n` times, whichever steps of its
plan one takes the run for. -/
def IssuesTimes (c : NodeCall) (t : Trace (SecretStore.sum Surroundings))
    (r : Except Error Kube.Secret) (n : Nat) : Prop :=
  (∃ u, Program.Carried c.carryOut u t ∧ c.plan.Leads u (.done r)) ∧
    ∀ u, Program.Carried c.carryOut u t → c.plan.Leads u (.done r) → u.countP isIssue = n

theorem exists_of_isIssue {e : Exchange (SecretStore.sum Caller)} (h : isIssue e) :
    ∃ answer, e = issued answer := by
  obtain ⟨op | ⟨⟨⟩ | event⟩, answer⟩ := e
  · cases h
  · exact ⟨answer, rfl⟩
  · cases h

/-- A call that finds a secret asks for no certificate. -/
theorem issuesTimes_finding (h : c.program.Leads (c.finding s) (.done (.ok s))) :
    c.IssuesTimes (c.finding s) (.ok s) 0 := by
  obtain ⟨u, -, hcarried, hplan⟩ := exists_steps h
  refine ⟨⟨u, hcarried, hplan⟩, fun u hcarried hplan => List.countP_eq_zero.2 fun e he hissue => ?_⟩
  obtain ⟨before, after, rfl⟩ := List.append_of_mem he
  obtain ⟨answer, rfl⟩ := exists_of_isIssue hissue
  -- it would have been told before that there is no secret
  have hbefore := ((obeys_of_leads hplan).issue_after before answer after rfl).1
  have hleft : Trace.left (before ++ issued answer :: after) =
      [⟨.get c.id.ns c.secretName, .ok (some s)⟩] := (left_of_carried hcarried).symm
  rw [Trace.left_append, hbefore] at hleft
  simp at hleft

end NodeCall

namespace EnsureCall

/-- Whatever happens from here on, a call finds a secret: its exchanges are those of finding it, one for
each turn that it gets; after both it is done and answers the secret, and has asked for no certificate;
and the store is the same after each of its turns as before. -/
structure OnlyFinds (p : Pool (Except Error (Kube.Secret ⊕ CertificateAuthority))) (j : Nat)
    (c : NodeCall) (s : Kube.Secret) : Prop where
  exchanges : ∀ schedule, (p.history schedule).client j = (c.finding s).take (Pool.turns schedule j)
  answers : ∀ schedule, (p.run schedule).result? j =
    if 2 ≤ Pool.turns schedule j then some (.ok (.inl s)) else none
  issues : ∀ schedule, 2 ≤ Pool.turns schedule j →
    c.IssuesTimes ((p.history schedule).client j) (.ok s) 0
  keeps : ∀ schedule answers, ((p.run schedule).step j answers).store = (p.run schedule).store

variable {p : Pool (Except Error (Kube.Secret ⊕ CertificateAuthority))} {j : Nat} {c : NodeCall}
  {s : Kube.Secret}

theorem onlyFinds_of_kept (hj : p.clients[j]? = some (node c).program)
    (valid : SecretName.checkType c.certificateType = .ok ())
    (kept : p.store.get? c.id.ns c.secretName = some s) (fits : s.FitsNode c.certificateType) :
    OnlyFinds p j c s := by
  have hfinding := NodeCall.leads_finding valid fits
  have hcourse := Pool.run_of_certain MemoryStore.Replies.keeps (leads_node hfinding)
    (c.certain_finding s) kept hj
  refine ⟨fun schedule => (hcourse schedule).1, fun schedule => (hcourse schedule).2, ?_, ?_⟩
  · intro schedule hturns
    rw [(hcourse schedule).1, List.take_of_length_le hturns]
    exact NodeCall.issuesTimes_finding hfinding
  · intro schedule answers
    refine Pool.store_step_of_created _ j answers fun s' hs' => ?_
    have hmem : (j, s') ∈ (p.history (schedule ++ [(j, answers)])).created := by
      rw [Pool.history_append, History.created_append]
      exact List.mem_append_right _ hs'
    rw [History.mem_created, (hcourse _).1] at hmem
    have hnone : Trace.created (c.finding s) = [] := rfl
    have hsub := ((List.take_sublist _ (c.finding s)).filterMap Exchange.created?).subset hmem
    rw [show (c.finding s).filterMap Exchange.created? = [] from hnone] at hsub
    cases hsub

/-- Once a call for a node's secret has succeeded, every call for the same pod and type that has not
begun yet finds what the first answered, over whatever store and among whatever other calls: its owner
may be without a uid, its labels, the address and the cluster may be others, and its way of issuing may
be to fail. -/
theorem onlyFinds_of_ok (m : MemoryStore) (calls : List EnsureCall) (before : List (Nat × Answers))
    {i : Nat} {c' : NodeCall} (hi : calls[i]? = some (.node c)) (hj : calls[j]? = some (.node c'))
    (ns : c'.id.ns = c.id.ns) (podName : c'.id.podName = c.id.podName)
    (certificateType : c'.certificateType = c.certificateType)
    (returned : ((Pool.start m (calls.map program)).run before).result? i = some (.ok (.inl s)))
    (later : ∀ turn ∈ before, turn.1 ≠ j) :
    OnlyFinds ((Pool.start m (calls.map program)).run before) j c' s := by
  have hr := (Pool.start m (calls.map program)).interleaving before
  have hdone := Pool.result?_eq_some.1 returned
  obtain ⟨hkept, hfits⟩ := kept_of_ok hr hi hdone
  have hvalid : SecretName.checkType c.certificateType = .ok () :=
    valid_of_ok (hr.ends (p := (node c).program) (by simp [Pool.start, hi]) hdone)
  have hname : c'.secretName = c.secretName := by
    rw [NodeCall.secretName, NodeCall.secretName, podName, certificateType]
  refine onlyFinds_of_kept ?_ (certificateType ▸ hvalid) ?_ (certificateType ▸ hfits)
  · rw [Pool.clients_run_of_not_mem later]
    simp [Pool.start, hj]
  · rw [ns, hname]
    exact hkept

/-- The second call for a pod has an owner without a uid, another address, another cluster and labels,
and cannot issue; the call for an authority has begun before it, and goes on in between. -/
theorem onlyFinds_of_ok_changed :
    let c := NodeCall.prepared "data-0"
    let c' : NodeCall := {
      owner := ⟨Kube.Kind.pod, { name := some "data-0" }⟩
      id := ⟨"data-0", "10.0.0.9", "other", "prod"⟩
      certificateType := c.certificateType
      labels := .ofList [("team", "search")]
      issue := throw (.signing .signature) }
    let calls : List EnsureCall := [.node c, .authority ⟨"prod", "search", .ofSeconds 86400⟩, .node c']
    let before := [(0, Pool.blank), (1, Pool.blank), (0, Pool.blank), (0, Pool.blank)]
    let p := (Pool.start .empty (calls.map program)).run before
    ownerReference c'.owner c'.secretName = .error (.invalidOwner (.unidentified c'.secretName)) ∧
      ∃ s, p.result? 0 = some (.ok (.inl s)) ∧
        (p.run [(2, Pool.blank), (1, Pool.blank), (2, Pool.blank)]).result? 2 =
          some (.ok (.inl s)) := by
  intro c c' calls before p
  have hsome : (p.result? 0).any (·.toOption.any Sum.isLeft) := by decide +kernel
  obtain ⟨r, returned, hok⟩ := (Option.any_eq_true _ _).1 hsome
  obtain ⟨a, rfl, hleft⟩ := exists_ok_of_any hok
  obtain ⟨s, rfl⟩ := Sum.isLeft_iff.1 hleft
  have first : calls[0]? = some (.node c) := rfl
  have second : calls[2]? = some (.node c') := rfl
  have finds := onlyFinds_of_ok .empty calls before first second rfl rfl rfl returned (by decide)
  exact ⟨rfl, s, returned, finds.answers _⟩

end EnsureCall

end NodePki
