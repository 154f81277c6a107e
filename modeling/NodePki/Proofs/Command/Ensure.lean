import NodePki.Command.Ensure
import NodePki.Proofs.Program.Attempts
import NodePki.Proofs.Store.Cluster
import NodePki.Proofs.Store.Memory

/-!
# Runs of the ensure command

A run of the ensure command first finds out about the pod and the services (`EnsureRequest.prepare`).
If that fails it is all there is. Otherwise both secrets are ensured, in a run of a program that asks a
store, and its questions are answered in one of two ways, from memory or by requests
(`EnsureRequest.Answers`). So a run of the command that comes to an end is cut into parts
(`EnsureRequest.exists_of_run`), of which that in the middle is judged by the program that it answers.
-/

namespace NodePki

open Program (Leads Carried leads_ask_iff)

/-! ### Stores in memory -/

namespace MemoryStore

variable {τ : Signature} {α : Type} {m m' : MemoryStore} {w : Trace τ} {a : α}

/-- A run with a store in memory is one in which the store replies. -/
theorem leads_run_iff {p : Program (SecretStore.sum τ) α} : Leads (run p m) w (.done (a, m')) ↔
    ∃ u, Trace.right u = w ∧ Happens Replies m u m' ∧ Leads p u (.done a) := by
  induction p generalizing m w with
  | done b =>
    constructor
    · rintro ⟨⟩
      exact ⟨[], rfl, .nil _, .refl _⟩
    · rintro ⟨u, rfl, hreplies, ⟨⟩⟩
      cases hreplies
      exact .refl _
  | ask op next ih =>
    rcases op with op | op
    · have hrun : run (.ask (.inl op) next) m = run (next (m.answer op).1) (m.answer op).2 := rfl
      rw [hrun, ih]
      constructor
      · rintro ⟨u, hright, hreplies, hp⟩
        exact ⟨⟨.inl op, (m.answer op).1⟩ :: u, hright, .cons (.store m op) hreplies, .ask hp⟩
      · rintro ⟨u, hright, hreplies, hp⟩
        obtain ⟨answer, u, rfl, hrest⟩ := leads_ask_iff.1 hp
        obtain ⟨m₁, hreply, hlater⟩ := Happens.cons_iff.1 hreplies
        obtain ⟨rfl, rfl⟩ := Replies.store_iff.1 hreply
        exact ⟨u, hright, hlater, hrest⟩
    · have hrun : run (.ask (.inr op) next) m = .ask op fun answer => run (next answer) m := rfl
      rw [hrun, leads_ask_iff]
      constructor
      · rintro ⟨answer, w, rfl, hrest⟩
        obtain ⟨u, rfl, hreplies, hp⟩ := (ih answer).1 hrest
        exact ⟨⟨.inr op, answer⟩ :: u, rfl, .cons (.other m op answer) hreplies, .ask hp⟩
      · rintro ⟨u, rfl, hreplies, hp⟩
        obtain ⟨answer, u, rfl, hrest⟩ := leads_ask_iff.1 hp
        obtain ⟨m₁, hreply, hlater⟩ := Happens.cons_iff.1 hreplies
        obtain rfl := Replies.other_iff.1 hreply
        exact ⟨answer, Trace.right u, rfl, (ih answer).2 ⟨u, rfl, hlater, hrest⟩⟩

end MemoryStore

/-! ### Stores of the cluster -/

namespace ClusterStore

/-- What the machine is asked by a program, it is asked while the program is carried out. -/
theorem right_sublist_of_carried {u : Trace (SecretStore.sum Surroundings)}
    {w : Trace (Kube.Api.sum Surroundings)} (h : Carried handle u w) :
    (Trace.right u).Sublist (Trace.right w) := by
  induction h with
  | nil => exact .slnil
  | @cons e u t t' first _ ih =>
    rw [Trace.right_append]
    obtain ⟨op | op, answer⟩ := e
    · exact ih.trans (List.sublist_append_right _ _)
    · obtain ⟨_, _, rfl, hend⟩ := leads_ask_iff.1 first
      cases hend
      exact ih.cons_cons _

end ClusterStore

/-! ### Parts of a run -/

namespace EnsureRequest

/-- What is found out first: the pod, which node it is, and the services of its cluster. -/
def prepare (r : EnsureRequest) :
    ExceptT CommandFault Kube.Calling (Kube.Pod × NodeIdentity × List ServiceEndpoint) := do
  let pod ← during (.pod r.ns r.pod) (Kube.getPod r.ns r.pod)
  let id ← checked .podNotReady (NodeIdentity.ofPod pod r.cluster r.ns)
  let services ← during (.services r.selector) (Kube.listServices r.ns r.selector)
  let endpoints ←
    checked .service (services.mapM fun service => ServiceEndpoint.ofService service r.ns)
  return (pod, id, endpoints)

/-- What is printed about the secret of a node. -/
def printed (r : EnsureRequest) (secret : Kube.Secret) : List String :=
  let name := secret.metadata.name.getD ""
  [s!"{r.ns}/{name}"]

/-- What is done at the end. -/
def finish (r : EnsureRequest) (id : NodeIdentity) (secret : Kube.Secret) :
    ExceptT CommandFault Kube.Calling (List String) := do
  r.reportReady id.podName (secret.metadata.name.getD "")
  return r.printed secret

theorem run_eq (r : EnsureRequest) (config : Config) :
    r.run config = r.prepare >>= fun (pod, id, services) =>
      r.withStore (r.ensureSecrets config pod id services) >>= r.finish id := by
  simp only [run, prepare, bind_assoc, pure_bind]
  rfl

/-- The exchanges in which the command answers what a program exchanges with a store: those with the
machine if the store is one in memory, and else the requests that carry them out. -/
inductive Answers (r : EnsureRequest) :
    Trace (SecretStore.sum Surroundings) → Trace (Kube.Api.sum Surroundings) → Prop
  | memory {u : Trace (SecretStore.sum Surroundings)} {m : MemoryStore} (dryRun : r.dryRun = true)
      (replies : Happens MemoryStore.Replies .empty u m) :
      Answers r u ((Trace.right u).map .right)
  | cluster {u : Trace (SecretStore.sum Surroundings)} {w : Trace (Kube.Api.sum Surroundings)}
      (dryRun : r.dryRun = false) (carried : Carried ClusterStore.handle u w) : Answers r u w

/-- A run of the command, in the middle of which there is one of the program that ensures both
secrets. -/
inductive Ensures (r : EnsureRequest) (config : Config) :
    Trace (Kube.Api.sum Surroundings) → Kube.Pod → NodeIdentity → List ServiceEndpoint →
      Trace (SecretStore.sum Surroundings) → Except CommandFault Kube.Secret → Prop
  | intro {before w after : Trace (Kube.Api.sum Surroundings)} {pod : Kube.Pod} {id : NodeIdentity}
      {services : List ServiceEndpoint} {u : Trace (SecretStore.sum Surroundings)}
      {secret : Except CommandFault Kube.Secret}
      (prepared : Leads r.prepare before (.done (.ok (pod, id, services))))
      (answers : r.Answers u w)
      (ensured : Leads (r.ensureSecrets config pod id services) u (.done secret)) :
      Ensures r config (before ++ (w ++ after)) pod id services u secret

variable {r : EnsureRequest} {config : Config} {t w : Trace (Kube.Api.sum Surroundings)}
  {u : Trace (SecretStore.sum Surroundings)} {pod : Kube.Pod} {id : NodeIdentity}
  {services : List ServiceEndpoint}

theorem exists_of_withStore {α : Type} {p : Storing α} {a : α}
    (h : Leads (r.withStore p) w (.done a)) : ∃ u, r.Answers u w ∧ Leads p u (.done a) := by
  rw [withStore] at h
  split at h
  · next dryRun =>
    obtain ⟨w₁, ⟨a', m⟩, w₂, rfl, hright, hend⟩ := Leads.exists_of_bind h
    cases hend
    obtain ⟨_, rfl, hrun⟩ := Leads.exists_of_right hright
    obtain ⟨u, rfl, replies, hp⟩ := MemoryStore.leads_run_iff.1 hrun
    rw [List.append_nil]
    exact ⟨u, .memory dryRun replies, hp⟩
  · next dryRun =>
    obtain ⟨u, carried, hp⟩ := Leads.exists_carried h
    exact ⟨u, .cluster (Bool.not_eq_true _ ▸ dryRun) carried, hp⟩

/-- A program that asks a store runs in memory. -/
theorem leads_withStore {α : Type} {p : Storing α} {a : α} {m : MemoryStore}
    (dryRun : r.dryRun = true) (replies : Happens MemoryStore.Replies .empty u m)
    (hp : Leads p u (.done a)) :
    Leads (r.withStore p) ((Trace.right u).map .right) (.done a) := by
  have hrun := (MemoryStore.leads_run_iff.2 ⟨u, rfl, replies, hp⟩).right (σ := Kube.Api)
  rw [withStore, if_pos dryRun]
  exact hrun.bind _

theorem leads_finish {secret : Kube.Secret} {result : Except CommandFault (List String)}
    (h : Leads (r.finish id secret) t (.done result)) : result = .ok (r.printed secret) := by
  obtain _ | ⟨⟨⟩⟩ := h
  rfl

theorem exists_leads_finish (r : EnsureRequest) (id : NodeIdentity) (secret : Kube.Secret) :
    ∃ t, Leads (r.finish id secret) t (.done (.ok (r.printed secret))) :=
  ⟨[⟨.inr (.report _), ()⟩], .ask (.refl _)⟩

/-- A run of a part of the command, with its own failures. -/
theorem exists_of_during {σ : Signature} {ε α : Type} {place : ε → CommandFault}
    {p : Program σ (Except ε α)} {t : Trace σ} {result : Except CommandFault α}
    (h : Leads (during place p) t (.done result)) :
    ∃ own, Leads p t (.done own) ∧ result = own.mapError place := by
  obtain ⟨t₁, own, t₂, rfl, hp, hend⟩ := Leads.exists_of_bind h
  cases hend
  exact ⟨own, by rwa [List.append_nil], rfl⟩

section Leads

variable {σ : Signature} {ε α β : Type} {place : ε → CommandFault} {p : Program σ (Except ε α)}
  {f : α → ExceptT CommandFault (Program σ) β} {q : Program σ (Except CommandFault β)}
  {t w : Trace σ}

theorem leads_during {a : α} (hp : Leads p t (.done (.ok a))) (hf : Leads (f a) w q) :
    Leads (during place p >>= f : ExceptT CommandFault (Program σ) β) (t ++ w) q :=
  Leads.try (hp.bind _) hf

theorem leads_during_error {e : ε} (hp : Leads p t (.done (.error e))) :
    Leads (during place p >>= f : ExceptT CommandFault (Program σ) β) t
      (.done (.error (place e))) :=
  (hp.bind _).bind _

theorem leads_checked {result : Except ε α} {a : α} (ok : result = .ok a) (hf : Leads (f a) w q) :
    Leads (checked place result >>= f : ExceptT CommandFault (Program σ) β) w q := by
  subst ok
  exact hf

/-- A check that is passed. -/
theorem eq_ok_of_checked {result : Except ε α} {a : α}
    (h : Leads (checked place result : ExceptT CommandFault (Program σ) α) t (.done (.ok a))) :
    result = .ok a := by
  obtain ⟨-, hresult⟩ := Program.leads_done_iff.1 h
  cases result with
  | ok a' =>
    cases hresult
    rfl
  | error e => cases hresult

end Leads

/-- What is found out about a pod is which node it is. -/
theorem ofPod_of_prepare (h : Leads r.prepare t (.done (.ok (pod, id, services)))) :
    NodeIdentity.ofPod pod r.cluster r.ns = .ok id := by
  obtain ⟨found, _, _, rfl, -, h⟩ := Leads.exists_of_try_ok h
  obtain ⟨node, _, _, rfl, hchecked, h⟩ := Leads.exists_of_try_ok h
  obtain ⟨listed, _, _, rfl, -, h⟩ := Leads.exists_of_try_ok h
  obtain ⟨endpoints, _, _, rfl, -, h⟩ := Leads.exists_of_try_ok h
  obtain ⟨-, hfound⟩ := Program.leads_done_iff.1 h
  cases hfound
  exact eq_ok_of_checked hchecked

/-- A run of the command ends before the secrets are ensured, or ensures them. -/
theorem exists_of_run {result : Except CommandFault (List String)}
    (h : Leads (r.run config) t (.done result)) :
    (∃ fault, Leads r.prepare t (.done (.error fault)) ∧ result = .error fault) ∨
      ∃ pod id services u secret, r.Ensures config t pod id services u secret ∧
        result = secret.map r.printed := by
  rw [run_eq] at h
  obtain ⟨fault, hprepare, rfl⟩ | ⟨⟨pod, id, services⟩, before, t, rfl, hprepare, h⟩ :=
    Leads.exists_of_try h
  · exact .inl ⟨fault, hprepare, rfl⟩
  refine .inr ⟨pod, id, services, ?_⟩
  obtain ⟨fault, hensure, rfl⟩ | ⟨secret, w, after, rfl, hensure, hfinish⟩ := Leads.exists_of_try h
  · obtain ⟨u, answers, ensured⟩ := exists_of_withStore hensure
    exact ⟨u, .error fault, List.append_nil t ▸ .intro hprepare answers ensured, rfl⟩
  · obtain ⟨u, answers, ensured⟩ := exists_of_withStore hensure
    exact ⟨u, .ok secret, .intro hprepare answers ensured, leads_finish hfinish⟩

theorem Answers.right_sublist (h : r.Answers u w) : (Trace.right u).Sublist (Trace.right w) := by
  cases h with
  | memory => simp only [Trace.right_map_right, List.Sublist.refl]
  | cluster _ carried => exact ClusterStore.right_sublist_of_carried carried

/-- What the machine is asked by the program that ensures the secrets, it is asked in the run of the
command. -/
theorem Ensures.right_sublist {secret : Except CommandFault Kube.Secret}
    (h : r.Ensures config t pod id services u secret) : (Trace.right u).Sublist (Trace.right t) := by
  obtain ⟨-, answers, -⟩ := h
  rw [Trace.right_append, Trace.right_append]
  exact answers.right_sublist.trans <|
    (List.sublist_append_left _ _).trans (List.sublist_append_right _ _)

theorem Ensures.ensured {secret : Except CommandFault Kube.Secret}
    (h : r.Ensures config t pod id services u secret) :
    Leads (r.ensureSecrets config pod id services) u (.done secret) := by
  obtain ⟨-, -, ensured⟩ := h
  exact ensured

/-- The node has the name of the pod that was found. -/
theorem Ensures.podName_eq {secret : Except CommandFault Kube.Secret}
    (h : r.Ensures config t pod id services u secret) : pod.metadata.name = some id.podName := by
  obtain ⟨prepared, -, -⟩ := h
  have hof := ofPod_of_prepare prepared
  unfold NodeIdentity.ofPod at hof
  split at hof
  · cases hof
  · next hname =>
    split at hof
    · cases hof
    · cases hof
      exact hname

/-- In a dry run the secrets are ensured in memory. -/
theorem Ensures.replies {secret : Except CommandFault Kube.Secret}
    (h : r.Ensures config t pod id services u secret) (dryRun : r.dryRun = true) :
    ∃ m, Happens MemoryStore.Replies .empty u m := by
  obtain ⟨-, answers, -⟩ := h
  cases answers with
  | memory _ replies => exact ⟨_, replies⟩
  | cluster notDry => exact absurd dryRun (Bool.eq_false_iff.1 notDry)

end EnsureRequest

end NodePki
