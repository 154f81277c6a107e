import NodePki.Proofs.Ensure.NodeSecret
import NodePki.Proofs.Store.Pool

/-!
# Secrets of other certificate types

Certificate types that differ can meet under one name, as names are cleaned and cut. Over the empty
store every kept secret is labelled with the type of the call that created it, whatever labels its
caller brought along, and each call checks that label, so who succeeds is answered a secret of its
own type (`one_type`). Calls of all other types under that name fail. The error is about the store
if they get to see the secret, and else about the call itself (`not_refusedByStore_own_errors`).
-/

namespace NodePki.NodeCall

/-- Two calls are for one name, whatever their types. -/
structure SharesName (c c' : NodeCall) : Prop where
  ns : c.id.ns = c'.id.ns
  secretName : c.secretName = c'.secretName

/-- What a call is told where the secret of another type is kept, after the exchanges of the call: what
is wrong with its own type, if it has not asked the store anything; what is wrong with its owner or its
certificate, if it had read that there is no secret yet; and else that the types differ. -/
inductive Refused (c : NodeCall) (t : Trace (SecretStore.sum Surroundings)) (keptType : String) :
    Error → Prop
  | ofType {e : Error} (invalid : SecretName.checkType c.certificateType = .error e)
      (unasked : t.left = []) : Refused c t keptType e
  | ofOwner {e : Error} (unowned : ownerReference c.owner c.secretName = .error e)
      (absent : c.ReadNone t) : Refused c t keptType e
  | ofIssue {e : Error} (unissued : c.Issues t (.error e)) (absent : c.ReadNone t) :
      Refused c t keptType e
  | ofStore :
      Refused c t keptType (.store (.typeMismatch c.secretName keptType c.certificateType))

variable {calls : List NodeCall} {c : NodeCall} {s : Kube.Secret} {i : Nat} {ns name : String}
  {m' : MemoryStore} {h : History (SecretStore.sum Surroundings)}
  {cs' : List (Storing (Except Error Kube.Secret))}

/-- Over the empty store each kept secret was created by a call, and is labelled with the type of that
call. -/
theorem exists_first (hr : Interleaving MemoryStore.Replies .empty (calls.map program) h m' cs')
    (hs : m'.get? ns name = some s) :
    ∃ first ∈ calls, first.id.ns = ns ∧ first.secretName = name ∧
      s.metadata.label? Label.certificateType = some first.certificateType := by
  obtain ⟨j, first, hfirst, made, hns, hname⟩ := made_of_kept hr hs
  refine ⟨first, List.mem_of_getElem? hfirst, hns, hname, ?_⟩
  cases made
  exact Kube.Secret.certificateType_ofNode

/-- Who succeeds is answered a secret of its own type. -/
theorem certificateType_of_ok
    (hr : Interleaving MemoryStore.Replies .empty (calls.map program) h m' cs')
    (hc : calls[i]? = some c) (hi : cs'[i]? = some (.done (.ok s))) :
    s.metadata.label? Label.certificateType = some c.certificateType := by
  obtain ⟨hkept, hcheck⟩ := kept_of_ok hr hc hi
  obtain ⟨first, -, -, -, hlabel⟩ := exists_first hr hkept
  rw [hlabel, Kube.Secret.certificateType_of_checkNode hcheck hlabel]

/-- Where a secret of another type is kept, a call fails. -/
theorem refused_of_kept
    (hr : Interleaving MemoryStore.Replies .empty (calls.map program) h m' cs')
    (hc : calls[i]? = some c) (hs : m'.get? c.id.ns c.secretName = some s) {t : String}
    (hlabel : s.metadata.label? Label.certificateType = some t) (hne : c.certificateType ≠ t)
    {r : Except Error Kube.Secret} (hi : cs'[i]? = some (.done r)) :
    ∃ e, r = .error e ∧ c.Refused (h.client i) t e := by
  cases r with
  | ok s' =>
    obtain ⟨hkept, hcheck⟩ := kept_of_ok hr hc hi
    rw [hs, Option.some.injEq] at hkept
    subst hkept
    exact absurd (Kube.Secret.certificateType_of_checkNode hcheck hlabel).symm hne
  | error e =>
    refine ⟨e, rfl, ?_⟩
    cases fails_of_error hr hc hi with
    | refused invalid unasked => exact .ofType invalid unasked
    | unowned unowned absent => exact .ofOwner unowned absent
    | unissued unissued absent => exact .ofIssue unissued absent
    | judged kept judged =>
      rw [hs, Option.some.injEq] at kept
      subst kept
      rw [Kube.Secret.checkNode_of_ne hlabel hne.symm] at judged
      cases judged
      exact .ofStore

/-- Calls over the empty store, in whatever order of their steps. Who succeeds is answered the kept
secret, which is of its type; calls of different types are never answered one secret. A secret stays
once it is kept, it is of the type of the call that created it, and calls of another type under its
name fail, because the types differ unless they came to an error of their own before they saw it
(`Refused`). Every call ends that gets its turn again and again. -/
theorem one_type (calls : List NodeCall) (schedule : Nat → Nat × Answers) :
    let start := Pool.start .empty (calls.map program)
    let p := start.after schedule
    (∀ n i c s, calls[i]? = some c → (p n).result? i = some (.ok s) →
      s.metadata.label? Label.certificateType = some c.certificateType ∧
        (p n).store.get? c.id.ns c.secretName = some s) ∧
    (∀ n i j c c' s, calls[i]? = some c → calls[j]? = some c' →
      (p n).result? i = some (.ok s) → (p n).result? j = some (.ok s) →
        c.certificateType = c'.certificateType) ∧
    (∀ n ns name s, (p n).store.get? ns name = some s →
      ∃ first ∈ calls, first.id.ns = ns ∧ first.secretName = name ∧
        s.metadata.label? Label.certificateType = some first.certificateType ∧
        ∀ k, (p (n + k)).store.get? ns name = some s ∧
          ∀ i c r, calls[i]? = some c → first.SharesName c →
            c.certificateType ≠ first.certificateType → (p (n + k)).result? i = some r →
              ∃ e, r = .error e ∧ c.Refused ((start.historyAfter schedule (n + k)).client i)
                first.certificateType e) ∧
    ∀ i c, calls[i]? = some c → (∀ n, ∃ k ≥ n, (schedule k).1 = i) →
      ∃ n r, (p n).result? i = some r := by
  intro start p
  have hr : ∀ n, Interleaving MemoryStore.Replies .empty (calls.map program)
      (start.historyAfter schedule n) (p n).store (p n).clients := fun n =>
    start.interleaving ((List.range n).map schedule)
  have htype : ∀ n i c s, calls[i]? = some c → (p n).result? i = some (.ok s) →
      s.metadata.label? Label.certificateType = some c.certificateType := fun n i c s hc hi =>
    certificateType_of_ok (hr n) hc (Pool.result?_eq_some.1 hi)
  refine ⟨fun n i c s hc hi => ⟨htype n i c s hc hi, ?_⟩, ?_, ?_, ?_⟩
  · exact (kept_of_ok (hr n) hc (Pool.result?_eq_some.1 hi)).1
  · intro n i j c c' s hc hc' hi hj
    have hboth := htype n i c s hc hi
    rw [htype n j c' s hc' hj] at hboth
    exact (Option.some.inj hboth).symm
  · intro n ns name s hs
    obtain ⟨first, hfirst, rfl, rfl, hlabel⟩ := exists_first (hr n) hs
    refine ⟨first, hfirst, rfl, rfl, hlabel, fun k => ?_⟩
    have hkept := start.get?_after_add schedule k hs
    refine ⟨hkept, fun i c r hc hshares hne hi => ?_⟩
    rw [hshares.ns, hshares.secretName] at hkept
    exact refused_of_kept (hr (n + k)) hc hkept hlabel hne (Pool.result?_eq_some.1 hi)
  · intro i c hc hturns
    have hi : i < start.clients.length := by
      simpa [start, Pool.start] using (List.getElem?_eq_some_iff.1 hc).1
    exact start.exists_done hi hturns

/-- Where the secret of another type is kept, every call that ends fails with an error about the
store. -/
def RefusedByStore (calls : List NodeCall) : Prop :=
  ∀ schedule i c s t r, calls[i]? = some c →
    ((Pool.start .empty (calls.map program)).run schedule).store.get? c.id.ns c.secretName = some s →
    s.metadata.label? Label.certificateType = some t → t ≠ c.certificateType →
    ((Pool.start .empty (calls.map program)).run schedule).result? i = some r →
      ∃ f, r = .error (.store f)

/-- A call that can fail over the empty store, for a reason that is none of the store, has a run in
which it does so before a call of another type creates the secret of its name. -/
theorem not_refusedByStore_of_leads {first c : NodeCall} (hshares : first.SharesName c)
    (hne : first.certificateType ≠ c.certificateType) (hcreate : first.CanCreate)
    {t : Trace (SecretStore.sum Surroundings)} {e : Error}
    (hrun : c.program.Leads t (.done (.error e)))
    (hhappens : Happens MemoryStore.Replies .empty t .empty) (he : ∀ f, e ≠ .store f) :
    ¬ RefusedByStore [first, c] := by
  intro hrefused
  obtain ⟨u, s, hrun', made, hhappens'⟩ := exists_creating hcreate
  obtain ⟨m', hm', added⟩ := hhappens' .empty rfl
  have hkept := added.get?_self
  obtain ⟨schedule, hstore, hfails, -⟩ := Pool.exists_in_turn (Nat.succ_ne_zero 0)
    (show ([first, c].map program)[1]? = some c.program from rfl) hrun hhappens
    (show ([first, c].map program)[0]? = some first.program from rfl) hrun' hm'
  have hlabel : s.metadata.label? Label.certificateType = some first.certificateType := by
    cases made
    exact Kube.Secret.certificateType_ofNode
  rw [hshares.ns, hshares.secretName, ← hstore] at hkept
  obtain ⟨f, hf⟩ := hrefused schedule 1 c s _ (.error e) rfl hkept hlabel hne hfails
  cases hf
  exact he f rfl

/-- Calls that meet another type are refused for themselves if their type is no label's value, or if
they saw that there is no secret and then cannot mention their owner or issue a certificate. -/
theorem not_refusedByStore_own_errors :
    let first := { prepared "data-0" with certificateType := "transport-only" }
    let second := { prepared "data-0" with certificateType := "transport_only" }
    ¬ RefusedByStore [first, { second with certificateType := "transport/only" }] ∧
      ¬ RefusedByStore [first, { second with owner := ⟨Kube.Kind.pod, { name := some "data-0" }⟩ }] ∧
      ¬ RefusedByStore [first, { second with issue := throw (.signing .signature) }] := by
  intro first second
  have hcreate : first.CanCreate :=
    ⟨show SecretName.checkType "transport-only" = .ok () from rfl, ⟨_, rfl⟩, [], _, .refl _⟩
  have hvalid : SecretName.checkType second.certificateType = .ok () :=
    show SecretName.checkType "transport_only" = .ok () from rfl
  refine ⟨?_, ?_, ?_⟩
  · refine not_refusedByStore_of_leads ⟨rfl, by decide⟩ (by decide) hcreate
      (Program.leads_check_error (e := .invalidIdentity (.certificateType "transport/only"))
        (by decide))
      (.nil _) fun f h => ?_
    cases h
  · refine not_refusedByStore_of_leads ⟨rfl, by decide⟩ (by decide) hcreate
      (Program.leads_check hvalid <| Program.leads_get none <| Program.leads_check_error
        (e := .invalidOwner (.unidentified second.secretName)) rfl)
      (.cons (.get rfl) (.nil _)) fun f h => ?_
    cases h
  · refine not_refusedByStore_of_leads ⟨rfl, by decide⟩ (by decide) hcreate
      (Program.leads_check hvalid <| Program.leads_get none <| Program.leads_check rfl <|
        Program.leads_aside_error (e := .signing .signature) (.refl _))
      (.cons (.get rfl) (.nil _)) fun f h => ?_
    cases h

end NodePki.NodeCall
