import NodePki.Proofs.Ensure.Frame

/-!
# Secrets without key and chain

When a call for a node's secret succeeds and answers neither key nor chain. The check of a secret
that there is passes those that hold both and those that hold neither, so all depends on what is
kept (`EnsureCall.yieldsMaterial_iff`): a secret with neither that the store began with, or one of an
authority of the same name. What is made for a node always has both.
-/

namespace NodePki

/-- The key and the chain of a node are there. -/
def Kube.Secret.HoldsNode (s : Kube.Secret) : Prop :=
  (s.octets? Entry.nodeKey).isSome ∧ (s.octets? Entry.nodeChain).isSome

/-- Neither the key nor the chain of a node is there. -/
def Kube.Secret.LacksNode (s : Kube.Secret) : Prop :=
  s.octets? Entry.nodeKey = none ∧ s.octets? Entry.nodeChain = none

namespace Kube.Secret

/-- A secret that fits holds both or neither. -/
theorem FitsNode.holds_or_lacks {s : Kube.Secret} {certificateType : String}
    (h : s.FitsNode certificateType) : s.HoldsNode ∨ s.LacksNode := by
  by_cases hkey : (s.octets? Entry.nodeKey).isSome
  · exact .inl ⟨hkey, h.whole.1 hkey⟩
  · have hchain : ¬ (s.octets? Entry.nodeChain).isSome := mt h.whole.2 hkey
    exact .inr ⟨Option.not_isSome_iff_eq_none.1 hkey, Option.not_isSome_iff_eq_none.1 hchain⟩

theorem LacksNode.not_holds {s : Kube.Secret} (h : s.LacksNode) : ¬ s.HoldsNode := by
  simp [HoldsNode, h.1]

theorem holdsNode_ofNode (name ns podName certificateType : String) (extra : TextMap)
    (owner : OwnerReference) (issued : IssuedCertificate) :
    (ofNode name ns podName certificateType extra owner issued).HoldsNode := by
  simp [HoldsNode]

section Authority

variable (name ns clusterName certificatePem keyPem : String)

theorem lacksNode_ofAuthority :
    (ofAuthority name ns clusterName certificatePem keyPem).LacksNode := by
  have hkey : Entry.nodeKey ≠ Entry.authorityCertificate ∧
      Entry.nodeKey ≠ Entry.authorityKey := by decide
  have hchain : Entry.nodeChain ≠ Entry.authorityCertificate ∧
      Entry.nodeChain ≠ Entry.authorityKey := by decide
  constructor <;> simp [ofAuthority, octets?, Dict.ofList, Dict.get?_insert, hkey, hchain]

/-- The secret of an authority names no type, and fits for a node of any. -/
theorem fitsNode_ofAuthority (certificateType : String) :
    (ofAuthority name ns clusterName certificatePem keyPem).FitsNode certificateType := by
  have hlacks := lacksNode_ofAuthority name ns clusterName certificatePem keyPem
  refine ⟨fun named hnamed => ?_, by simp [hlacks.1, hlacks.2]⟩
  have hne : Label.certificateType ≠ Label.clusterName := by decide
  simp [ofAuthority, Metadata.label?, Dict.ofList, Dict.get?_insert, hne] at hnamed

end Authority

end Kube.Secret

/-! ### Both kinds of calls as one -/

namespace Ensured

variable {α β : Type} {E : Ensured α} {f : α → β} {t : Trace (SecretStore.sum Surroundings)}

/-- The same, with something done to what is answered. -/
def map (f : α → β) (E : Ensured α) : Ensured β where
  ns := E.ns
  name := E.name
  Refuses := E.Refuses
  Fails := E.Fails
  Makes t secret g := ∃ g', E.Makes t secret g' ∧ g = f ∘ g'
  judge s := (E.judge s).map f
  named := fun ⟨_, made, _⟩ => E.named made
  placed := fun ⟨_, made, _⟩ => E.placed made
  append := fun ⟨g, made, hg⟩ u => ⟨g, E.append made u, hg⟩

theorem judge_map_eq_ok {s : Kube.Secret} {b : β} (h : (E.map f).judge s = .ok b) :
    ∃ a, E.judge s = .ok a ∧ f a = b := by
  have hmap : (E.judge s).map f = .ok b := h
  cases hjudge : E.judge s with
  | error e =>
    rw [hjudge] at hmap
    cases hmap
  | ok a =>
    rw [hjudge] at hmap
    cases hmap
    exact ⟨a, rfl, rfl⟩

theorem Asks.map {op : (SecretStore.sum Surroundings).Op} (h : E.Asks t op) :
    (E.map f).Asks t op := by
  cases h with
  | read first => exact .read first
  | create made absent => exact .create ⟨_, made, rfl⟩ absent
  | reread made lost => exact .reread ⟨_, made, rfl⟩ lost
  | machine op => exact .machine op

theorem Ends.map {r : Except Error α} (h : E.Ends t r) : (E.map f).Ends t (r.map f) := by
  cases h with
  | refused refused unasked => exact .refused refused unasked
  | unread failed => exact .unread failed
  | found found judged => exact .found found (congrArg (Except.map f) judged)
  | unmade failed absent => exact .unmade failed absent
  | uncreated made failed => exact .uncreated ⟨_, made, rfl⟩ failed
  | @created secret s g made created => exact .created (f := f ∘ g) ⟨g, made, rfl⟩ created
  | lostUnread made failed => exact .lostUnread ⟨_, made, rfl⟩ failed
  | vanished made absent => exact .vanished ⟨_, made, rfl⟩ absent
  | lost made found judged => exact .lost ⟨_, made, rfl⟩ found (congrArg (Except.map f) judged)

theorem along_map {p : ExceptT Error Storing α} (h : Program.Along E.Asks E.Ends [] p) (f : α → β) :
    Program.Along (E.map f).Asks (E.map f).Ends [] (f <$> p : ExceptT Error Storing β) := by
  refine Program.along_bind.2 (Program.Along.mono h (fun _ _ => Asks.map) fun t r hr => ?_)
  cases r with
  | ok a => exact (Program.along_done _).2 hr.map
  | error e => exact (Program.along_done _).2 hr.map

end Ensured

namespace EnsureCall

/-- What the call ensures. -/
def ensured : EnsureCall → Ensured (Kube.Secret ⊕ CertificateAuthority)
  | node c => c.ensured.map .inl
  | authority c => c.ensured.map .inr

theorem along (c : EnsureCall) : c.program.Along c.ensured.Asks c.ensured.Ends [] := by
  cases c with
  | node c => exact Ensured.along_map c.along _
  | authority c => exact Ensured.along_map c.along _

/-- In every run each call for a node's secret that succeeds answers a key and a chain. -/
def YieldsMaterial (m : MemoryStore) (calls : List EnsureCall) : Prop :=
  ∀ schedule i c s, calls[i]? = some (.node c) →
    ((Pool.start m (calls.map program)).run schedule).result? i = some (.ok (.inl s)) → s.HoldsNode

/-- A secret without key and chain that a call for a node's secret finds, and that passes its check:
there before all calls, or created by one for an authority. `Creates` says of which of these this is to
be thought. -/
inductive Hollow (m : MemoryStore) (Creates : AuthorityCall → CertificateAuthority → Prop)
    (c : NodeCall) : Kube.Secret → Prop
  | kept {s : Kube.Secret} (kept : m.get? c.id.ns c.secretName = some s)
      (fits : s.FitsNode c.certificateType) (lacks : s.LacksNode) : Hollow m Creates c s
  | authority {c' : AuthorityCall} {a : CertificateAuthority}
      (free : m.get? c.id.ns c.secretName = none) (ns : c'.ns = c.id.ns)
      (secretName : c'.secretName = c.secretName) (creates : Creates c' a) :
      Hollow m Creates c (c'.secret a)

/-- In a run one of the calls generated an authority and created its secret. -/
def Created (calls : List EnsureCall) (h : History (SecretStore.sum Surroundings)) (c : AuthorityCall)
    (a : CertificateAuthority) : Prop :=
  ∃ i, calls[i]? = some (.authority c) ∧ c.Generates (h.client i) (.ok a) ∧
    c.secret a ∈ (h.client i).created

/-- One of the calls can generate an authority. -/
def MayCreate (calls : List EnsureCall) (c : AuthorityCall) (a : CertificateAuthority) : Prop :=
  .authority c ∈ calls ∧ ∃ t, c.Generates t (.ok a)

variable {calls : List EnsureCall} {m m' : MemoryStore} {c : NodeCall} {s : Kube.Secret} {i : Nat}
  {h : History (SecretStore.sum Surroundings)} {t : Trace (SecretStore.sum Surroundings)}
  {cs' : List (Storing (Except Error (Kube.Secret ⊕ CertificateAuthority)))}

/-- Among calls of both kinds a call for a node's secret that succeeds answers the kept secret,
which fits. -/
theorem kept_of_ok (hr : Interleaving MemoryStore.Replies m (calls.map program) h m' cs')
    (hc : calls[i]? = some (.node c)) (hi : cs'[i]? = some (.done (.ok (.inl s)))) :
    m'.get? c.id.ns c.secretName = some s ∧ s.FitsNode c.certificateType := by
  obtain ⟨s', hkept, hjudge | ⟨f, ⟨g, ⟨made, rfl⟩, rfl⟩, hf⟩⟩ :=
    Ensured.kept_of_ok hr.happens (h.client_sublist i) (Ensured.ends along hr hc hi)
  · obtain ⟨s'', hjudge, hs⟩ := Ensured.judge_map_eq_ok hjudge
    cases hs
    obtain ⟨hcheck, rfl⟩ := NodeCall.judge_eq_ok.1 hjudge
    exact ⟨hkept, (Kube.Secret.checkNode_eq_ok_iff _).1 hcheck⟩
  · cases hf
    cases made
    exact ⟨hkept, (Kube.Secret.checkNode_eq_ok_iff "").1 (Kube.Secret.checkNode_ofNode "")⟩

/-- What a call that succeeds answers without key and chain was there, or was created in this run. -/
theorem hollow_of_ok (hr : Interleaving MemoryStore.Replies m (calls.map program) h m' cs')
    (hc : calls[i]? = some (.node c)) (hi : cs'[i]? = some (.done (.ok (.inl s))))
    (hlacks : s.LacksNode) : Hollow m (Created calls h) c s := by
  obtain ⟨hkept, hfits⟩ := kept_of_ok hr hc hi
  cases hm : m.get? c.id.ns c.secretName with
  | some s₀ =>
    have hsame := MemoryStore.grows_of_happens hr.happens hm
    rw [hkept, Option.some.injEq] at hsame
    exact .kept (hsame ▸ hm) hfits hlacks
  | none =>
    -- what was not there was made by a call, and what a call for a node makes has both
    obtain ⟨j, c₀, f, hc₀, made, hown, hns, hname⟩ := Ensured.made_of_kept along hr hkept hm
    cases c₀ with
    | node c₀ =>
      obtain ⟨g, ⟨made, -⟩, -⟩ := made
      cases made
      exact absurd (Kube.Secret.holdsNode_ofNode ..) hlacks.not_holds
    | authority c₀ =>
      obtain ⟨g, ⟨a, generates, rfl, -⟩, -⟩ := made
      exact .authority hm hns hname ⟨j, hc₀, generates, hown⟩

/-- What was created in a run may be created. -/
theorem Hollow.mayCreate (hs : Hollow m (Created calls h) c s) : Hollow m (MayCreate calls) c s := by
  cases hs with
  | kept kept fits lacks => exact .kept kept fits lacks
  | authority free ns secretName creates =>
    obtain ⟨j, call, generates, -⟩ := creates
    exact .authority free ns secretName ⟨List.mem_of_getElem? call, _, generates⟩

theorem leads_node (hrun : c.program.Leads t (.done (.ok s))) :
    (node c).program.Leads t (.done (.ok (.inl s))) :=
  hrun.bind _

theorem leads_authority {c : AuthorityCall} {a : CertificateAuthority}
    (hrun : c.program.Leads t (.done (.ok a))) :
    (authority c).program.Leads t (.done (.ok (.inr a))) :=
  hrun.bind _

/-- A call for a type that cannot be the value of a label does nothing. -/
theorem program_of_invalid {e : Error} (h : SecretName.checkType c.certificateType = .error e) :
    (node c).program = .done (.error e) := by
  have hrefused : c.program = .done (.error e) := by
    unfold NodeCall.program ensureNodeSecret
    rw [h]
    rfl
  change (.inl <$> (c.program : ExceptT Error Storing Kube.Secret) :
    ExceptT Error Storing (Kube.Secret ⊕ CertificateAuthority)) = _
  rw [hrefused]
  rfl

/-- A call that succeeds is for a type that can be the value of a label. -/
theorem valid_of_ok {r : Kube.Secret ⊕ CertificateAuthority}
    (hrun : (node c).program.Leads t (.done (.ok r))) :
    SecretName.checkType c.certificateType = .ok () := by
  cases hcheck : SecretName.checkType c.certificateType with
  | ok _ => rfl
  | error e =>
    rw [program_of_invalid hcheck] at hrun
    cases hrun

/-- A call for a node's secret that fits answers it, in a run of its own. -/
theorem exists_run_kept (hi : calls[i]? = some (.node c))
    (valid : SecretName.checkType c.certificateType = .ok ())
    (kept : m.get? c.id.ns c.secretName = some s) (fits : s.FitsNode c.certificateType) :
    ∃ schedule,
      ((Pool.start m (calls.map program)).run schedule).result? i = some (.ok (.inl s)) := by
  obtain ⟨t, hrun, hhappens⟩ :=
    NodeCall.exists_finding valid ((Kube.Secret.checkNode_eq_ok_iff _).2 fits)
  have hclient : (calls.map program)[i]? = some (node c).program := by simp [hi]
  obtain ⟨schedule, -, hclients⟩ :=
    Pool.exists_schedule (Interleaving.alone (leads_node hrun) (hhappens m kept) hclient) []
  have hlength : i < calls.length := (List.getElem?_eq_some_iff.1 hi).1
  refine ⟨schedule, ?_⟩
  rw [Pool.result?_eq_some, Pool.start, hclients]
  simp [hlength]

/-- Where a name is free, an authority's call for it goes first, and a call for a node's secret of
that name answers what it created. -/
theorem exists_run_authority {c' : AuthorityCall} (hi : calls[i]? = some (.node c))
    (valid : SecretName.checkType c.certificateType = .ok ()) (call : .authority c' ∈ calls)
    (free : m.get? c.id.ns c.secretName = none) (hns : c'.ns = c.id.ns)
    (hname : c'.secretName = c.secretName) (hcan : c'.CanGenerate) :
    ∃ schedule a, ((Pool.start m (calls.map program)).run schedule).result? i =
      some (.ok (.inl (c'.secret a))) := by
  obtain ⟨t, a, hfirst, -, hhappens⟩ := AuthorityCall.exists_creating hcan
  rw [hns, hname] at hhappens
  obtain ⟨m₁, hm₁, added⟩ := hhappens m free
  have hkept := added.get?_self
  have hcheck : (c'.secret a).checkNode c.secretName c.certificateType = .ok () :=
    (Kube.Secret.checkNode_eq_ok_iff _).2 (Kube.Secret.fitsNode_ofAuthority ..)
  obtain ⟨t', hrun, hhappens'⟩ := NodeCall.exists_finding valid hcheck
  obtain ⟨j, hj⟩ := List.getElem?_of_mem call
  have hij : j ≠ i := by
    rintro rfl
    rw [hi] at hj
    cases hj
  have hclient : (calls.map program)[i]? = some (node c).program := by simp [hi]
  have hclient' : (calls.map program)[j]? = some (authority c').program := by simp [hj]
  obtain ⟨schedule, -, -, hsecond⟩ := Pool.exists_in_turn hij hclient' (leads_authority hfirst) hm₁
    hclient (leads_node hrun) (hhappens' m₁ hkept)
  exact ⟨schedule, a, hsecond⟩

/-- A call that may find a secret without key and chain has a run in which it answers one. -/
theorem Hollow.exists_run (hs : Hollow m (MayCreate calls) c s) (hi : calls[i]? = some (.node c))
    (valid : SecretName.checkType c.certificateType = .ok ()) :
    ∃ schedule s, s.LacksNode ∧
      ((Pool.start m (calls.map program)).run schedule).result? i = some (.ok (.inl s)) := by
  cases hs with
  | kept kept fits lacks =>
    obtain ⟨schedule, hresult⟩ := exists_run_kept hi valid kept fits
    exact ⟨schedule, s, lacks, hresult⟩
  | authority free hns hname creates =>
    obtain ⟨call, t, during, -, -, hrun⟩ := creates
    obtain ⟨schedule, a, hresult⟩ :=
      exists_run_authority hi valid call free hns hname ⟨during, _, hrun⟩
    exact ⟨schedule, _, Kube.Secret.lacksNode_ofAuthority .., hresult⟩

/-- Calls of both kinds over any store. What a call for a node's secret answers has key and chain, or
it has neither: then the store began with it, or the name was free and a call for an authority of the
same secret name generated one in this run and created its secret. So key and chain are answered in
every run exactly if no such secret may be found. -/
theorem yieldsMaterial_iff (m : MemoryStore) (calls : List EnsureCall) :
    (∀ schedule i c s, calls[i]? = some (.node c) →
      ((Pool.start m (calls.map program)).run schedule).result? i = some (.ok (.inl s)) →
        s.HoldsNode ∨ (s.LacksNode ∧ Hollow m
          (Created calls ((Pool.start m (calls.map program)).history schedule)) c s)) ∧
    (YieldsMaterial m calls ↔ ∀ c, .node c ∈ calls →
      SecretName.checkType c.certificateType = .ok () → ∀ s, ¬ Hollow m (MayCreate calls) c s) := by
  have hanswers : ∀ schedule i c s, calls[i]? = some (.node c) →
      ((Pool.start m (calls.map program)).run schedule).result? i = some (.ok (.inl s)) →
        s.HoldsNode ∨ (s.LacksNode ∧ Hollow m
          (Created calls ((Pool.start m (calls.map program)).history schedule)) c s) := by
    intro schedule i c s hc hs
    have hr := (Pool.start m (calls.map program)).interleaving schedule
    have hi := Pool.result?_eq_some.1 hs
    exact (kept_of_ok hr hc hi).2.holds_or_lacks.imp_right fun hlacks =>
      ⟨hlacks, hollow_of_ok hr hc hi hlacks⟩
  refine ⟨hanswers, fun hyields c hc valid s hollow => ?_, fun hnone schedule i c s hc hs => ?_⟩
  · obtain ⟨i, hi⟩ := List.getElem?_of_mem hc
    obtain ⟨schedule, s', hlacks, hs⟩ := hollow.exists_run hi valid
    exact hlacks.not_holds (hyields schedule i c s' hi hs)
  · refine (hanswers schedule i c s hc hs).resolve_right fun ⟨_, hollow⟩ => ?_
    have hr := (Pool.start m (calls.map program)).interleaving schedule
    have hclient : (calls.map program)[i]? = some (node c).program := by simp [hc]
    have hrun := hr.ends hclient (Pool.result?_eq_some.1 hs)
    exact hnone c (List.mem_of_getElem? hc) (valid_of_ok hrun) s hollow.mayCreate

/-- A secret without data is answered as it is, where a call finds it. -/
theorem not_yieldsMaterial_without_data :
    let secret : Kube.Secret :=
      { metadata := { name := some "data-0-elasticsearch.all-certs", ns := some "prod" } }
    let m : MemoryStore :=
      ⟨Dict.empty.insert ("prod", "data-0-elasticsearch.all-certs") secret, 0⟩
    ¬ YieldsMaterial m [.node (NodeCall.prepared "data-0")] := by
  intro secret m hyields
  -- the call reads and reports
  have hholds := hyields [(0, Pool.blank), (0, Pool.blank)] 0 _ secret rfl rfl
  cases hholds.1

end EnsureCall

end NodePki
