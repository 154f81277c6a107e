import NodePki.Proofs.Ensure.NodeSecret
import NodePki.Proofs.Program.Retry
import NodePki.Proofs.Store.Cluster

/-!
# Retried calls over an unreliable server

Calls for one secret, each made again until it succeeds, over an API server of which little is
known. Requests may be lost, a creation may take effect at any time after it was asked for, or
never, and replies may be lost or be any refusal whatever was done. What is asked of the server
(`Replies`) is that it commits the name only if it is absent, takes nothing back, and that a secret
in an answer to a read of the name, or to its creation, is the one that is committed.

The calls depend on nothing more. Who succeeds was answered by the server in the last attempt
(`RetriedCall.along`), however many keys were made in vain before, so all who succeed answer the one
secret that is committed (`RetriedCall.at_most_once`). Nor is a lost reply the end of a call: the
next attempt may find what was committed (`RetriedCall.exists_recovery`).
-/

namespace NodePki

/-- What an API server has under one name: the secrets that it was asked to create, and those that
it committed, first one first. -/
structure Registry where
  asked : List Kube.Secret
  committed : List Kube.Secret

namespace Registry

/-- The server may commit, if the name is absent, a secret that it was asked to create. What it adds
of its own is not said. -/
inductive Commits : Registry → Registry → Prop
  | nothing (w : Registry) : Commits w w
  | secret {w : Registry} {posted : Kube.Secret} (asked : posted ∈ w.asked)
      (absent : w.committed = []) (s : Kube.Secret) :
      Commits w { w with committed := w.committed ++ [s] }

/-- A request may be lost, or ask for nothing to be created, or it is a creation that may be
committed from now on. -/
inductive Receives (ns name : String) : Registry → Kube.Request → Registry → Prop
  | nothing (w : Registry) (request : Kube.Request) : Receives ns name w request w
  | creation (w : Registry) {secret : Kube.Secret} (named : secret.metadata.name = some name) :
      Receives ns name w (Kube.creationRequest ns secret) { w with asked := secret :: w.asked }

/-- What the server confirms of the name in an exchange is committed. -/
def Shows (ns name : String) (w : Registry) (e : Exchange (Kube.Api.sum Surroundings)) : Prop :=
  ∀ s, Kube.Confirms ns name s e → s ∈ w.committed

/-- What the server may do while a client asks: it commits what it will, and what it confirms is
committed. All other replies are possible, whatever was done. -/
inductive Replies (ns name : String) :
    Registry → Exchange (Kube.Api.sum Surroundings) → Registry → Prop
  | server {w w₁ w' : Registry} {request : Kube.Request} {reply : Except String Kube.Response}
      (received : Receives ns name w request w₁) (commits : w₁.Commits w')
      (honest : w'.Shows ns name ⟨.inl request, reply⟩) : Replies ns name w ⟨.inl request, reply⟩ w'
  | machine {w w' : Registry} (op : Surroundings.Op) (answer : Surroundings.Answer op)
      (commits : w.Commits w') : Replies ns name w ⟨.inr op, answer⟩ w'

variable {w w' : Registry} {e : Exchange (Kube.Api.sum Surroundings)} {ns name : String}
  {e' : Exchange (Kube.Api.sum Surroundings)} {request : Kube.Request}

theorem Commits.keeps (h : w.Commits w') : w.committed ⊆ w'.committed := by
  cases h with
  | nothing => exact List.Subset.refl _
  | secret => exact List.subset_append_left _ _

theorem Commits.length_le (h : w.Commits w') (hw : w.committed.length ≤ 1) :
    w'.committed.length ≤ 1 := by
  cases h with
  | nothing => exact hw
  | secret asked absent s => simp [absent]

theorem Receives.committed_eq (h : Receives ns name w request w') :
    w'.committed = w.committed := by
  cases h <;> rfl

/-- What was committed stays. -/
theorem Replies.keeps (h : Replies ns name w e w') : w.committed ⊆ w'.committed := by
  cases h with
  | server received commits _ => exact received.committed_eq ▸ commits.keeps
  | machine _ _ commits => exact commits.keeps

/-- The name is not committed twice. -/
theorem Replies.length_le (h : Replies ns name w e w') (hw : w.committed.length ≤ 1) :
    w'.committed.length ≤ 1 := by
  cases h with
  | server received commits _ => exact commits.length_le (received.committed_eq ▸ hw)
  | machine _ _ commits => exact commits.length_le hw

theorem Replies.shows (h : Replies ns name w e w') : w'.Shows ns name e := by
  cases h with
  | server _ _ honest => exact honest
  | machine => exact fun _ hs => nomatch hs

theorem Replies.keeps_shows (h : Replies ns name w e w') (he : w.Shows ns name e') :
    w'.Shows ns name e' :=
  fun s hs => h.keeps (he s hs)

/-- All that was confirmed is committed at the end. -/
theorem shows_of_happens {t : Trace (Kube.Api.sum Surroundings)}
    (h : Happens (Replies ns name) w t w') : ∀ e ∈ t, w'.Shows ns name e :=
  h.shows Replies.shows Replies.keeps_shows

section Honest

variable {s : Kube.Secret} {response : Kube.Response}

/-- A reply that is lost says nothing. -/
theorem shows_lost (w : Registry) (text : String) : w.Shows ns name ⟨.inl request, .error text⟩ :=
  fun _ h => nomatch h

/-- Nor does a refusal, whatever is committed. -/
theorem shows_refused (w : Registry) (h : response.isRefusal = true) :
    w.Shows ns name ⟨.inl request, .ok response⟩ := by
  intro s h'
  have hobject := h'.object_eq
  simp [Kube.Response.object, h] at hobject

theorem shows_found (h : response.object Kube.readSecret = .ok s) (hs : s ∈ w.committed) :
    w.Shows ns name ⟨.inl request, .ok response⟩ := by
  intro s' h'
  rw [h'.object_eq] at h
  cases h
  exact hs

end Honest

end Registry

/-- A call that is made again until it succeeds. -/
structure RetriedCall where
  call : NodeCall
  policy : RetryPolicy
  patience : Nat := UInt64.size

namespace RetriedCall

/-- What a client does with the cluster as its store. -/
def program (c : RetriedCall) : Kube.Calling (Except Error Kube.Secret) :=
  ClusterStore.run (c.policy.untilSuccess c.call.program c.patience)

/-- A call that succeeds was told by its store of the secret that it answers. -/
theorem tells_of_ok {c : NodeCall} {t : Trace (SecretStore.sum Surroundings)} {s : Kube.Secret}
    (h : c.ensured.Ends t (.ok s)) : ∃ e ∈ t, SecretStore.Tells c.id.ns c.secretName s e := by
  rcases h.told with ⟨s', hjudge, hread⟩ | ⟨secret, s', f, made, hf, hcreated⟩
  · obtain ⟨-, rfl⟩ := NodeCall.judge_eq_ok.1 hjudge
    exact ⟨_, Trace.mem_of_mem_left hread, .read⟩
  · have hnamed := c.ensured.named made
    obtain ⟨-, rfl⟩ := made
    cases hf
    exact ⟨_, Trace.mem_of_mem_left hcreated, .created hnamed⟩

/-- In every run of a client a success is one that the server confirmed. -/
theorem along (c : RetriedCall) :
    c.program.Along (fun _ _ => True) (fun t r => ∀ s, r = .ok s →
      ∃ e ∈ t, Kube.Confirms c.call.id.ns c.call.secretName s e) [] := by
  have hcall : ∀ t, RetryPolicy.Succeeds
      (fun t s => ∃ e ∈ t, SecretStore.Tells c.call.id.ns c.call.secretName s e) t
      c.call.program := by
    refine fun t => Program.along_iff_nil.2 (c.call.along.mono (fun _ _ _ => trivial) ?_)
    rintro u r hends s rfl
    obtain ⟨e, he, htells⟩ := tells_of_ok hends
    exact ⟨e, List.mem_append_right t he, htells⟩
  refine (ClusterStore.along_run (c.policy.succeeds_untilSuccess hcall c.patience)).mono
    (fun _ _ ask => ask) ?_
  rintro t r ⟨u, hconfirmed, hsuccess⟩ s hs
  exact hconfirmed _ _ _ (hsuccess s hs)

section Recovery

open Registry (Replies)

/-- What the server is asked in an exchange with the store if it answers `found` when there is a
secret to be read, and does not reply to a creation. -/
def during (found : Kube.Response) :
    Exchange (SecretStore.sum Surroundings) → Trace (Kube.Api.sum Surroundings)
  | ⟨.inl (.get ns name), .ok none⟩ => [⟨.inl (Kube.secretRequest ns name), .ok ⟨404, ""⟩⟩]
  | ⟨.inl (.get ns name), _⟩ => [⟨.inl (Kube.secretRequest ns name), .ok found⟩]
  | ⟨.inl (.create ns secret), _⟩ => [⟨.inl (Kube.creationRequest ns secret), .error "no reply"⟩]
  | ⟨.inr op, answer⟩ => [⟨.inr op, answer⟩]

/-- A secret can be asked for, and `found` is the answer that has it. -/
structure Reachable (ns name : String) (found : Kube.Response) (s : Kube.Secret) : Prop where
  named : name ≠ ""
  read : Kube.isSendable s!"{Kube.collectionPath .secret ns}/{name}"
  created : Kube.isSendable (Kube.collectionPath .secret ns)
  object : found.object Kube.readSecret = .ok s

/-- The store comes to what it answers by what it sends to the server, which leaves another. -/
structure Served (ns name : String) (found : Kube.Response) (w : Registry)
    (t : Trace (SecretStore.sum Surroundings)) (sent : Trace Kube.Api) (w' : Registry) : Prop where
  answered : ∀ e ∈ t, Program.Leads (ClusterStore.handle e.op) (during found e) (.done e.answer)
  happens : Happens (Replies ns name) w (t.flatMap (during found)) w'
  sent : Trace.left (t.flatMap (during found)) = sent

namespace Served

variable {ns name : String} {found : Kube.Response} {s secret : Kube.Secret} {w w₁ w' : Registry}
  {t u : Trace (SecretStore.sum Surroundings)} {sent sent' : Trace Kube.Api}

theorem append (h : Served ns name found w t sent w₁) (h' : Served ns name found w₁ u sent' w') :
    Served ns name found w (t ++ u) (sent ++ sent') w' where
  answered := List.forall_mem_append.2 ⟨h.answered, h'.answered⟩
  happens := List.flatMap_append ▸ h.happens.append h'.happens
  sent := by rw [List.flatMap_append, Trace.left_append, h.sent, h'.sent]

theorem aside (w : Registry) (u : Trace Surroundings) :
    Served ns name found w (u.map .right) [] w where
  answered := List.forall_mem_map.2 fun _ _ => .ask (.refl _)
  happens := by
    induction u with
    | nil => exact .nil w
    | cons e u ih => exact .cons (.machine _ _ (.nothing w)) ih
  sent := by
    induction u with
    | nil => rfl
    | cons e u ih => exact ih

theorem absent (h : Reachable ns name found s) (w : Registry) :
    Served ns name found w [⟨.inl (.get ns name), .ok none⟩]
      [⟨Kube.secretRequest ns name, .ok ⟨404, ""⟩⟩] w where
  answered := List.forall_mem_singleton.2 (ClusterStore.leads_get h.named h.read rfl)
  happens := .cons (.server (.nothing w _) (.nothing w) (Registry.shows_refused w rfl)) (.nil w)
  sent := rfl

theorem read (h : Reachable ns name found s) (hs : s ∈ w.committed) :
    Served ns name found w [⟨.inl (.get ns name), .ok (some s)⟩]
      [⟨Kube.secretRequest ns name, .ok found⟩] w where
  answered := by
    refine List.forall_mem_singleton.2 (ClusterStore.leads_get h.named h.read ?_)
    simp [Kube.received, h.object, ClusterStore.getOutcome]
  happens := .cons (.server (.nothing w _) (.nothing w) (Registry.shows_found h.object hs)) (.nil w)
  sent := rfl

/-- A secret is committed, and who created it is not told so. -/
theorem lost (h : Reachable ns name found s) (named : secret.metadata.name = some name) :
    Served ns name found ⟨[], []⟩
      [⟨.inl (.create ns secret), .error (.store (.create ns name (.unreachable "no reply")))⟩]
      [⟨Kube.creationRequest ns secret, .error "no reply"⟩] ⟨[secret], [s]⟩ where
  answered := by
    refine List.forall_mem_singleton.2 ?_
    have hlost : Program.Leads (ClusterStore.handle (.inl (.create ns secret))) _ _ :=
      ClusterStore.leads_create_lost h.created "no reply"
    rw [named] at hlost
    exact hlost
  happens := .cons (.server (.creation _ named) (.secret (List.mem_singleton_self _) rfl s)
    (Registry.shows_lost _ _)) (.nil _)
  sent := rfl

/-- The program that asks the store runs on the server. -/
theorem exists_run {p q : Storing (Except Error Kube.Secret)} (hp : p.Leads t q)
    (h : Served ns name found w t sent w') :
    ∃ u, (ClusterStore.run p).Leads u (ClusterStore.run q) ∧ Happens (Replies ns name) w u w' ∧
      u.left = sent :=
  ⟨_, hp.interpret (during found) h.answered, h.happens, h.sent⟩

end Served

/-- What is sent to the server in two attempts: the first finds no secret and its creation gets no reply,
the second reads what was found. -/
def lostReply (ns name : String) (posted : Kube.Secret) (found : Kube.Response) : Trace Kube.Api :=
  [⟨Kube.secretRequest ns name, .ok ⟨404, ""⟩⟩, ⟨Kube.creationRequest ns posted, .error "no reply"⟩,
    ⟨Kube.secretRequest ns name, .ok found⟩]

/-- A call whose creation was committed without a reply may make its next attempt, which finds what
was committed. -/
theorem exists_recovery {c : NodeCall} {policy : RetryPolicy} {patience : Nat} {s : Kube.Secret}
    {found : Kube.Response} (hcreate : c.CanCreate)
    (hreach : Reachable c.id.ns c.secretName found s)
    (hcheck : s.checkNode c.secretName c.certificateType = .ok ())
    (htime : 0 < policy.timeout.nanos) (hmore : 0 < policy.moreAttempts patience) :
    ∃ t posted, (program ⟨c, policy, patience⟩).Leads t (.done (.ok s)) ∧
      Happens (Replies c.id.ns c.secretName) ⟨[], []⟩ t ⟨[posted], [s]⟩ ∧
      t.left = lostReply c.id.ns c.secretName posted found := by
  obtain ⟨valid, ⟨reference, owned⟩, u, issued, hissue⟩ := hcreate
  have hfirst : c.program.Leads _ (.done (.error _)) :=
    Program.leads_check valid <| Program.leads_get none <| Program.leads_check owned <|
      Program.leads_aside hissue <| Program.leads_create_error
        (.store (.create c.id.ns c.secretName (.unreachable "no reply")))
  have hsecond : c.program.Leads _ (.done (.ok s)) :=
    Program.leads_check valid <| Program.leads_get (some s) <|
      Program.leads_report <| Program.leads_check hcheck <| .refl _
  obtain ⟨more, hmore : policy.moreAttempts patience = more + 1⟩ :=
    Nat.exists_eq_succ_of_ne_zero (Nat.ne_of_gt hmore)
  have hrun : (policy.untilSuccess c.program patience).Leads _ (.done (.ok s)) :=
    RetryPolicy.leads_aside .uptime ⟨0⟩ <| hmore ▸ RetryPolicy.leads_again ⟨0⟩ ⟨0⟩ hfirst htime
      (RetryPolicy.leads_last hsecond)
  have named : (Kube.Secret.ofNode c.secretName c.id.ns c.id.podName c.certificateType c.labels
      reference issued).metadata.name = some c.secretName := rfl
  obtain ⟨t, ht, hw, hsent⟩ := Served.exists_run hrun <|
    (Served.aside ⟨[], []⟩ [⟨.uptime, _⟩]).append <|
      ((Served.absent hreach _).append <| (Served.aside _ u).append <|
        Served.lost hreach named).append <|
      (Served.aside _ [⟨.uptime, _⟩, ⟨.report _, _⟩, ⟨.sleep _, _⟩]).append <|
      (Served.read hreach (List.mem_singleton_self s)).append <| Served.aside _ [⟨.report _, _⟩]
  exact ⟨t, _, ht, hw, hsent⟩

end Recovery

/-- Whatever the server loses, delays or refuses, and whatever the order of the clients' steps, at
most one secret is ever committed under the name, and every client that succeeds answers this
one. -/
theorem at_most_once {ns name : String} {w w' : Registry} {calls : List RetriedCall}
    {h : History (Kube.Api.sum Surroundings)}
    {cs' : List (Kube.Calling (Except Error Kube.Secret))} (hw : w.committed.length ≤ 1)
    (hcalls : ∀ c ∈ calls, c.call.id.ns = ns ∧ c.call.secretName = name)
    (hr : Interleaving (Registry.Replies ns name) w (calls.map program) h w' cs') :
    w'.committed.length ≤ 1 ∧
      ∀ (i : Nat) (s : Kube.Secret), cs'[i]? = some (.done (.ok s)) → w'.committed = [s] := by
  have hlength : w'.committed.length ≤ 1 :=
    hr.happens.keeps (P := fun w => w.committed.length ≤ 1) Registry.Replies.length_le hw
  refine ⟨hlength, fun i s hs => ?_⟩
  obtain ⟨p, hp, hends⟩ := hr.exists_ends hs
  rw [List.getElem?_map, Option.map_eq_some_iff] at hp
  obtain ⟨c, hc, rfl⟩ := hp
  obtain ⟨rfl, rfl⟩ := hcalls c (List.mem_of_getElem? hc)
  obtain ⟨e, he, hconfirms⟩ := c.along.ends hends s rfl
  have hmem : s ∈ w'.committed :=
    Registry.shows_of_happens hr.happens e (History.mem_all_of_mem_client he) s hconfirms
  obtain ⟨s', hs'⟩ := List.length_eq_one_iff.1
    (Nat.le_antisymm hlength (List.length_pos_of_mem hmem))
  rw [hs', List.mem_singleton] at hmem
  rw [hs', hmem]

/-- A secret was committed, nobody was told so, and the next attempt answers it. -/
theorem at_most_once_lost_reply :
    let name := "data-0-elasticsearch.all-certs"
    let calls : List RetriedCall :=
      [{ call := .prepared "data-0", policy := ⟨.ofSeconds 60, .ofSeconds 1⟩ }]
    ∃ h w' posted found s, Interleaving (Registry.Replies "prod" name) ⟨[], []⟩
        (calls.map program) h w' [.done (.ok s)] ∧
      h.all.left = lostReply "prod" name posted found ∧ w'.asked = [posted] ∧
      w'.committed = [s] := by
  intro name calls
  let c : NodeCall := .prepared "data-0"
  let s : Kube.Secret := { metadata := { name := some name } }
  let body := "\x7b\"metadata\":\x7b\"name\":\"data-0-elasticsearch.all-certs\"\x7d\x7d"
  have hbody : (Json.parse? body).bind Kube.readSecret = some s := by decide +kernel
  have hname : c.secretName = name := by decide +kernel
  have hreach : Reachable "prod" c.secretName ⟨200, body⟩ s :=
    hname ▸ ⟨by decide, by decide +kernel, by decide +kernel,
      by simp [Kube.Response.object, Kube.Response.isRefusal, hbody]⟩
  let policy : RetryPolicy := ⟨.ofSeconds 60, .ofSeconds 1⟩
  obtain ⟨t, posted, ht, hw, hsent⟩ := exists_recovery (NodeCall.canCreate_prepared "data-0") hreach rfl
    (show 0 < policy.timeout.nanos by decide)
    (show 0 < policy.moreAttempts UInt64.size by decide +kernel)
  have hcalls : ∀ c' ∈ calls, c'.call.id.ns = "prod" ∧ c'.call.secretName = c.secretName :=
    List.forall_mem_singleton.2 ⟨rfl, rfl⟩
  have hr := Interleaving.alone ht hw (show (calls.map program)[0]? = some _ from rfl)
  have hempty : (⟨[], []⟩ : Registry).committed.length ≤ 1 := by decide
  have hall : History.all (t.map (0, ·)) = t := by simp [History.all, Function.comp_def]
  rw [← hall] at hsent
  rw [← hname]
  exact ⟨_, _, posted, _, s, hr, hsent, rfl, (at_most_once hempty hcalls hr).2 0 s rfl⟩

end RetriedCall

end NodePki
