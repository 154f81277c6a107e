import NodePki.Store.Cluster
import NodePki.Proofs.Store.Basic

/-!
# Requests of the cluster store

What the store whose secrets are those of the cluster says, the API server has said before: a secret
that it tells of was the object in the answer to a read of that name or to its creation
(`ClusterStore.along_run`). Every other answer, a refusal, none at all, or one that is no secret,
tells of no secret. The rules for `Leads` say what the store asks of the server in one run.
-/

namespace NodePki

namespace Kube

/-- A request as it is sent: its path ends where a query or fragment would begin. -/
def Request.sent (r : Request) : Request :=
  { r with path := String.ofList (pathOf r.path.toList) }

/-- The request that reads a secret. -/
def secretRequest (ns name : String) : Request :=
  Request.sent { method := .get, path := s!"{collectionPath .secret ns}/{name}" }

/-- The request that creates a secret. -/
def creationRequest (ns : String) (secret : Secret) : Request :=
  Request.sent { method := .post, path := collectionPath .secret ns, body := some secret.json }

/-- The server says that it has a secret under a name: as the object that was read, or created. -/
inductive Confirms (ns name : String) (s : Secret) : Exchange (Api.sum Surroundings) → Prop
  | read {response : Response} (object : response.object readSecret = .ok s) :
      Confirms ns name s ⟨.inl (secretRequest ns name), .ok response⟩
  | created {secret : Secret} {response : Response} (named : secret.metadata.name = some name)
      (object : response.object readSecret = .ok s) :
      Confirms ns name s ⟨.inl (creationRequest ns secret), .ok response⟩

variable {α : Type} {read : Json → Option α} {request : Request} {t : Trace (Api.sum Surroundings)}
  {ns name : String} {secret : Secret}

/-- The secret that is confirmed is the object in the answer. -/
theorem Confirms.object_eq {s : Secret} {response : Response}
    (h : Confirms ns name s ⟨.inl request, .ok response⟩) : response.object readSecret = .ok s := by
  cases h with
  | read object => exact object
  | created _ object => exact object

/-- What a reply is to who asked for an object. -/
def received (read : Json → Option α) : Except String Response → Except Failure α
  | .error text => .error (.unreachable text)
  | .ok response => response.object read

/-- A request is sent once, or not at all. -/
theorem along_request {Ask : Trace (Api.sum Surroundings) → (Api.sum Surroundings).Op → Prop}
    {End : Trace (Api.sum Surroundings) → Except Failure α → Prop} (asks : Ask t (.inl request.sent))
    (unsent : ∀ e, End t (.error e))
    (sent : ∀ reply, End (t ++ [⟨.inl request.sent, reply⟩]) (received read reply)) :
    Program.Along Ask End t (send read request) := by
  unfold send
  dsimp only
  split
  · exact (Program.along_done _).2 (unsent _)
  · refine Program.along_ask.2 ⟨asks, fun answer => ?_⟩
    cases answer with
    | error text => exact (Program.along_done _).2 (sent (.error text))
    | ok response => exact (Program.along_done _).2 (sent (.ok response))

/-- An object is the one in the answer. -/
theorem along_send :
    Program.Along (fun _ _ => True) (fun u r => ∀ a, r = .ok a →
      ∃ response, response.object read = .ok a ∧ u = t ++ [⟨.inl request.sent, .ok response⟩])
      t (send read request) := by
  refine along_request trivial (fun e _ h => nomatch h) fun reply a h => ?_
  cases reply with
  | error text => cases h
  | ok response => exact ⟨response, h, rfl⟩

theorem along_getSecret :
    Program.Along (fun _ _ => True) (fun u r => ∀ s, r = .ok s → ∃ e ∈ u, Confirms ns name s e)
      t (getSecret ns name) := by
  unfold getSecret getObject
  split
  · exact (Program.along_done _).2 fun _ h => nomatch h
  · refine Program.Along.mono along_send (fun _ _ ask => ask) fun u r hr s hs => ?_
    obtain ⟨response, hobject, rfl⟩ := hr s hs
    exact ⟨_, List.mem_append_right _ (List.mem_singleton_self _), .read hobject⟩

theorem along_createSecret :
    Program.Along (fun _ _ => True) (fun u r => ∀ name s, secret.metadata.name = some name →
      r = .ok s → ∃ e ∈ u, Confirms ns name s e) t (createSecret ns secret) := by
  refine Program.Along.mono along_send (fun _ _ ask => ask) fun u r hr name s hname hs => ?_
  obtain ⟨response, hobject, rfl⟩ := hr s hs
  exact ⟨_, List.mem_append_right _ (List.mem_singleton_self _), .created hname hobject⟩

section Leads

/-- Whether a request with a path is sent, and not refused before. -/
def isSendable (path : String) : Bool := !(pathOf path.toList).any breaksAddress

theorem leads_send (hpath : isSendable request.path) (reply : Except String Response) :
    Program.Leads (send read request) [⟨.inl request.sent, reply⟩]
      (.done (received read reply)) := by
  have hany : (pathOf request.path.toList).any breaksAddress = false := by
    simpa [isSendable] using hpath
  unfold send
  simp only [hany, Bool.false_eq_true, if_false]
  cases reply with
  | error text => exact .ask (.refl _)
  | ok response => exact .ask (.refl _)

theorem leads_getObject {kind : Kind} (hname : name ≠ "")
    (hpath : isSendable s!"{collectionPath kind ns}/{name}") (reply : Except String Response) :
    Program.Leads (getObject read kind ns name)
      [⟨.inl (Request.sent { method := .get, path := s!"{collectionPath kind ns}/{name}" }), reply⟩]
      (.done (received read reply)) := by
  unfold getObject
  rw [if_neg hname]
  refine leads_send ?_ reply
  exact hpath

theorem leads_createSecret (hpath : isSendable (collectionPath .secret ns))
    (reply : Except String Response) :
    Program.Leads (createSecret ns secret) [⟨.inl (creationRequest ns secret), reply⟩]
      (.done (received readSecret reply)) := by
  refine leads_send ?_ reply
  exact hpath

end Leads

end Kube

namespace ClusterStore

open Kube (Confirms)
open SecretStore (Tells)

/-- All that the store told the server had said. -/
def Confirmed (t : Trace (Kube.Api.sum Surroundings)) (u : Trace (SecretStore.sum Surroundings)) :
    Prop :=
  ∀ ns name s, (∃ e ∈ u, Tells ns name s e) → ∃ e ∈ t, Confirms ns name s e

variable {α : Type} {t t' : Trace (Kube.Api.sum Surroundings)}
  {u : Trace (SecretStore.sum Surroundings)} {e : Exchange (SecretStore.sum Surroundings)}

theorem getOutcome_eq_some {ns name : String} {r : Except Kube.Failure Kube.Secret}
    {s : Kube.Secret} (h : getOutcome ns name r = .ok (some s)) : r = .ok s := by
  unfold getOutcome at h
  split at h
  · cases h
    rfl
  · split at h <;> cases h
  · cases h

theorem createOutcome_eq_created {ns name : String} {r : Except Kube.Failure Kube.Secret}
    {s : Kube.Secret} (h : createOutcome ns name r = .ok (.created s)) : r = .ok s := by
  unfold createOutcome at h
  split at h
  · cases h
    rfl
  · split at h <;> cases h
  · cases h

/-- One more exchange. -/
theorem Confirmed.snoc (h : Confirmed t u) (hsub : t ⊆ t')
    (he : ∀ ns name s, Tells ns name s e → ∃ e' ∈ t', Confirms ns name s e') :
    Confirmed t' (u ++ [e]) := by
  rintro ns name s ⟨e', hmem, htells⟩
  rcases List.mem_append.1 hmem with hmem | hmem
  · obtain ⟨e'', he'', hc⟩ := h ns name s ⟨e', hmem, htells⟩
    exact ⟨e'', hsub he'', hc⟩
  · cases List.mem_singleton.1 hmem
    exact he ns name s htells

/-- What the store tells in one exchange the server had said. -/
theorem along_handle (op : (SecretStore.sum Surroundings).Op) (h : Confirmed t u) :
    Program.Along (fun _ _ => True) (fun t' answer => Confirmed t' (u ++ [⟨op, answer⟩])) t
      (handle op) := by
  match op with
  | .inr op =>
    refine Program.along_ask.2 ⟨trivial, fun answer => (Program.along_done _).2 ?_⟩
    exact h.snoc (List.subset_append_left _ _) fun _ _ _ he => nomatch he
  | .inl (.get ns name) =>
    refine Program.along_bind.2 (Kube.along_getSecret.grows.mono (fun _ _ ask => ask) ?_)
    rintro t' r ⟨hsub, hr⟩
    refine (Program.along_done _).2 (h.snoc hsub fun ns' name' s he => ?_)
    generalize ho : getOutcome ns name r = o at he
    cases he with
    | read => exact hr s (getOutcome_eq_some ho)
  | .inl (.create ns secret) =>
    refine Program.along_bind.2 (Kube.along_createSecret.grows.mono (fun _ _ ask => ask) ?_)
    rintro t' r ⟨hsub, hr⟩
    have hout : ∀ t'', t' ⊆ t'' → Confirmed t'' (u ++ [⟨.inl (.create ns secret),
        createOutcome ns (secret.metadata.name.getD "") r⟩]) := by
      refine fun t'' hsub' => h.snoc (List.Subset.trans hsub hsub') fun ns' name' s he => ?_
      generalize ho : createOutcome ns (secret.metadata.name.getD "") r = o at he
      cases he with
      | created named =>
        obtain ⟨e, he, hconfirms⟩ := hr name' s named (createOutcome_eq_created ho)
        exact ⟨e, hsub' he, hconfirms⟩
    dsimp only
    split
    · refine Program.along_bind.2 (Program.along_right (fun _ _ => trivial) fun v _ _ => ?_)
      exact (Program.along_done _).2 (hout _ (List.subset_append_left _ _))
    · exact (Program.along_done _).2 (hout t' (List.Subset.refl t'))

/-- What a program was told by the store the server had said. -/
theorem along_run {End : Trace (SecretStore.sum Surroundings) → α → Prop} {p : Storing α}
    (hp : p.Along (fun _ _ => True) End []) :
    (run p).Along (fun _ _ => True) (fun t a => ∃ u, Confirmed t u ∧ End u a) [] :=
  Program.along_interpret (fun _ _ op h => along_handle op h) hp
    fun _ _ _ ⟨_, he, _⟩ => nomatch he

section Leads

variable {ns name : String}

theorem leads_get {reply : Except String Kube.Response} {answer : Except Error (Option Kube.Secret)}
    (hname : name ≠ "") (hpath : Kube.isSendable s!"{Kube.collectionPath .secret ns}/{name}")
    (hanswer : getOutcome ns name (Kube.received Kube.readSecret reply) = answer) :
    Program.Leads (handle (.inl (.get ns name))) [⟨.inl (Kube.secretRequest ns name), reply⟩]
      (.done answer) :=
  hanswer ▸ (Kube.leads_getObject hname hpath reply).bind _

/-- A creation without a reply. -/
theorem leads_create_lost {secret : Kube.Secret}
    (hpath : Kube.isSendable (Kube.collectionPath .secret ns)) (text : String) :
    Program.Leads (handle (.inl (.create ns secret)))
      [⟨.inl (Kube.creationRequest ns secret), .error text⟩]
      (.done (.error (.store (.create ns (secret.metadata.name.getD "") (.unreachable text))))) :=
  (Kube.leads_createSecret hpath (.error text)).bind _

end Leads

end ClusterStore

end NodePki
