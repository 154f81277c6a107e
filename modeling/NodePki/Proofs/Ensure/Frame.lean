import Mathlib.Data.List.Nodup
import NodePki.Proofs.Ensure.Authority
import NodePki.Proofs.Ensure.NodeSecret
import NodePki.Proofs.Store.Pool

/-!
# What calls leave alone

Calls for secrets of nodes and of authorities, side by side over any store in memory. Each call
creates only under its own name, once at most, and nothing if it fails (`CreatesOnly`); as what a
store in memory keeps is never written again, all that the calls do to a store is to put what they
created behind what it held (`EnsureCall.frame`).
-/

namespace NodePki

/-! ## One call -/

/-- A creation is asked for under a name in a namespace, and before anything was created. -/
def AsksUnder (ns name : String) (t : Trace (SecretStore.sum Surroundings))
    (op : (SecretStore.sum Surroundings).Op) : Prop :=
  ∀ ns' secret, op = .inl (.create ns' secret) →
    ns' = ns ∧ secret.metadata.name = some name ∧ t.created = []

/-- A program creates under one name only, once at most, and nothing if it fails. -/
def CreatesOnly {α : Type} (ns name : String) (p : Storing (Except Error α)) : Prop :=
  p.Along (AsksUnder ns name) (fun t r => ∀ e, r = .error e → t.created = []) []

namespace Ensured

variable {α : Type} {E : Ensured α} {t : Trace (SecretStore.sum Surroundings)}

theorem Asks.under {op : (SecretStore.sum Surroundings).Op} (h : E.Asks t op) :
    AsksUnder E.ns E.name t op := by
  cases h with
  | create made absent =>
    rintro ns' secret ⟨⟩
    exact ⟨rfl, E.named made, Trace.created_of_left absent⟩
  | _ => rintro ns' secret ⟨⟩

/-- Of all ends the one with a creation is no failure. -/
theorem Ends.created_of_error {e : Error} (h : E.Ends t (.error e)) : t.created = [] := by
  cases h with
  | refused _ unasked => exact Trace.created_of_left unasked
  | unread failed => exact Trace.created_of_left failed
  | found found _ => exact Trace.created_of_left found
  | unmade _ absent => exact Trace.created_of_left absent
  | uncreated _ failed => exact Trace.created_of_left failed
  | lostUnread _ failed => exact Trace.created_of_left failed
  | vanished _ absent => exact Trace.created_of_left absent
  | lost _ found _ => exact Trace.created_of_left found

theorem createsOnly {p : Storing (Except Error α)} (h : p.Along E.Asks E.Ends []) :
    CreatesOnly E.ns E.name p :=
  h.mono (fun _ _ => Asks.under) fun _ _ hends _ he => Ends.created_of_error (he ▸ hends)

end Ensured

/-- What is done with the result is of no matter. -/
theorem CreatesOnly.map {α β : Type} {ns name : String} {p : ExceptT Error Storing α}
    (h : CreatesOnly ns name p) (f : α → β) :
    CreatesOnly ns name (f <$> p : ExceptT Error Storing β) := by
  refine Program.along_bind.2 (Program.Along.mono h (fun _ _ ask => ask) fun t r hr => ?_)
  cases r with
  | ok a => exact (Program.along_done _).2 fun _ he => nomatch he
  | error e => exact (Program.along_done _).2 fun _ _ => hr e rfl

/-! ## Calls side by side -/

namespace History

/-- What was created, with the numbers of the clients who asked for it. -/
def created {τ : Signature} (h : History (SecretStore.sum τ)) : List (Nat × Kube.Secret) :=
  h.filterMap fun x => x.2.created?.map (x.1, ·)

variable {τ : Signature} (h : History (SecretStore.sum τ))

theorem created_cons (x : Nat × Exchange (SecretStore.sum τ)) :
    created (x :: h) = (x.2.created?.map (x.1, ·)).toList ++ created h := by
  unfold created
  cases hx : x.2.created? with
  | none => simp [hx]
  | some s => simp [hx]

theorem created_append (h' : History (SecretStore.sum τ)) :
    created (h ++ h') = created h ++ created h' :=
  List.filterMap_append

theorem map_snd_created : h.created.map Prod.snd = Trace.created h.all := by
  induction h with
  | nil => rfl
  | cons x h ih =>
    have hall : History.all (x :: h) = x.2 :: History.all h := rfl
    rw [created_cons, List.map_append, ih, hall, Trace.created_cons]
    cases x.2.created? <;> rfl

/-- What was created for one client. -/
theorem filter_created (i : Nat) :
    (h.created.filter (·.1 = i)).map Prod.snd = Trace.created (h.client i) := by
  induction h with
  | nil => rfl
  | cons x h ih =>
    obtain ⟨j, e⟩ := x
    rw [created_cons, List.filter_append, List.map_append, ih, History.client_cons]
    by_cases hj : j = i
    · rw [if_pos hj, Trace.created_cons]
      cases e.created? <;> simp [hj]
    · rw [if_neg hj]
      cases e.created? <;> simp [hj]

theorem mem_created {i : Nat} {s : Kube.Secret} :
    (i, s) ∈ h.created ↔ s ∈ Trace.created (h.client i) := by
  rw [← filter_created]
  simp

end History

section Clients

variable {α : Type} {m m' : MemoryStore} {cs cs' : List (Storing (Except Error α))}
  {h : History (SecretStore.sum Surroundings)} {i : Nat} {ns name : String}
  {p : Storing (Except Error α)} {s : Kube.Secret}

theorem CreatesOnly.isAt_of_created (hr : Interleaving MemoryStore.Replies m cs h m' cs')
    (hi : cs[i]? = some p) (hp : CreatesOnly ns name p) (hs : s ∈ Trace.created (h.client i)) :
    s.isAt ns name := by
  obtain ⟨e, he, hcreated⟩ := List.mem_filterMap.1 hs
  obtain ⟨q, -, hq⟩ := hr.leads hi
  obtain ⟨u, v, huv⟩ := List.append_of_mem he
  have hasks := hp.asked (huv ▸ hq)
  have hshows := MemoryStore.shows_of_happens hr.happens e (History.mem_all_of_mem_client he)
  cases hshows with
  | created named kept =>
    cases hcreated
    obtain ⟨rfl, hname, -⟩ := hasks _ _ rfl
    simp [Kube.Secret.isAt, MemoryStore.withNamespace, hname]
  | _ => cases hcreated

theorem CreatesOnly.length_created_le (hr : Interleaving MemoryStore.Replies m cs h m' cs')
    (hi : cs[i]? = some p) (hp : CreatesOnly ns name p) :
    (Trace.created (h.client i)).length ≤ 1 := by
  obtain ⟨q, -, hq⟩ := hr.leads hi
  refine Trace.length_created_le fun u e v s huv he => ?_
  have hasks := hp.asked (huv ▸ hq)
  obtain ⟨op, answer⟩ := e
  match op, answer with
  | .inl (.create ns' secret), _ => exact (hasks ns' secret rfl).2.2
  | .inl (.get ns' name'), answer => cases answer <;> cases he
  | .inr _, _ => cases he

/-- Who fails has created nothing. -/
theorem CreatesOnly.created_of_error (hr : Interleaving MemoryStore.Replies m cs h m' cs')
    (hi : cs[i]? = some p) (hp : CreatesOnly ns name p) {e : Error}
    (he : cs'[i]? = some (.done (.error e))) : Trace.created (h.client i) = [] :=
  Program.Along.ends hp (hr.ends hi he) e rfl

/-- If each client creates once at most, then no client stands twice among the creations. -/
theorem History.nodup_created {τ : Signature} {h : History (SecretStore.sum τ)}
    (hle : ∀ i, (Trace.created (h.client i)).length ≤ 1) : (h.created.map Prod.fst).Nodup := by
  refine List.nodup_iff_count_le_one.2 fun i => ?_
  have hcount : (h.created.map Prod.fst).count i = (h.created.filter (·.1 = i)).length := by
    rw [List.count, List.countP_map, List.countP_eq_length_filter]
    rfl
  rw [hcount, ← List.length_map Prod.snd, filter_created]
  exact hle i

end Clients

namespace Pool

/-- A step in which its client creates nothing leaves the store as it is. -/
theorem store_step_of_created {α : Type} (p : Pool α) (i : Nat) (answers : Answers)
    (h : ∀ s, (i, s) ∉ (p.history [(i, answers)]).created) : (p.step i answers).store = p.store := by
  rcases p.step_cases i answers with ⟨-, hs, -⟩ | ⟨op, next, answer, -, he, hr, -⟩
  · rw [hs]
  · rcases hr.cases with ⟨hs, -, -⟩ | ⟨ns, secret, name, hcreate, -⟩
    · exact hs
    · rw [history, he, hcreate] at h
      exact absurd (List.mem_singleton_self _) (h _)

end Pool

/-! ## Both kinds of calls -/

/-- A call for the secret of a node or of an authority. -/
inductive EnsureCall
  | node (call : NodeCall)
  | authority (call : AuthorityCall)

namespace EnsureCall

/-- What the call does. -/
def program : EnsureCall → Storing (Except Error (Kube.Secret ⊕ CertificateAuthority))
  | node c => (.inl <$> (c.program : ExceptT Error Storing Kube.Secret) : ExceptT Error Storing _)
  | authority c => (.inr <$> c.program : ExceptT Error Storing _)

/-- The namespace of the call. -/
def ns : EnsureCall → String
  | node c => c.id.ns
  | authority c => c.ns

/-- The name of the secret that the call ensures. -/
def secretName : EnsureCall → String
  | node c => c.secretName
  | authority c => c.secretName

theorem createsOnly (c : EnsureCall) : CreatesOnly c.ns c.secretName c.program := by
  cases c with
  | node c => exact (c.ensured.createsOnly c.along).map _
  | authority c => exact (c.ensured.createsOnly c.along).map _

variable {calls : List EnsureCall} {m m' : MemoryStore} {i : Nat} {s : Kube.Secret}
  {h : History (SecretStore.sum Surroundings)}
  {cs' : List (Storing (Except Error (Kube.Secret ⊕ CertificateAuthority)))}

/-- What is created is created by a call, under the name of that call, which was free. -/
theorem created_by (hr : Interleaving MemoryStore.Replies m (calls.map program) h m' cs')
    (hs : (i, s) ∈ h.created) :
    ∃ c, calls[i]? = some c ∧ s.place = (c.ns, c.secretName) ∧ m.get? c.ns c.secretName = none := by
  have hs := h.mem_created.1 hs
  obtain ⟨e, he, -⟩ := List.mem_filterMap.1 hs
  obtain ⟨p, hp⟩ := hr.exists_client he
  obtain ⟨c, hc, rfl⟩ := List.getElem?_map ▸ hp |> Option.map_eq_some_iff.1
  have hat := c.createsOnly.isAt_of_created hr hp hs
  refine ⟨c, hc, Kube.Secret.place_eq_of_isAt hat, ?_⟩
  exact MemoryStore.absent_of_created hr.happens ((h.client_sublist i).filterMap _ |>.subset hs) hat

/-- A call creates once at most. -/
theorem nodup_created (hr : Interleaving MemoryStore.Replies m (calls.map program) h m' cs') :
    (h.created.map Prod.fst).Nodup := by
  refine History.nodup_created fun i => ?_
  cases hc : calls[i]? with
  | some c => exact c.createsOnly.length_created_le hr (by simp [hc])
  | none =>
    have hclient : h.client i = [] := by
      refine List.eq_nil_iff_forall_not_mem.2 fun e he => ?_
      obtain ⟨p, hp⟩ := hr.exists_client he
      simp [hc] at hp
    rw [hclient]
    exact Nat.zero_le 1

theorem not_created_of_error (hr : Interleaving MemoryStore.Replies m (calls.map program) h m' cs')
    {e : Error} (hi : cs'[i]? = some (.done (.error e))) (s : Kube.Secret) :
    (i, s) ∉ h.created := by
  obtain ⟨p, hp, -⟩ := hr.exists_ends hi
  have hc := hp
  rw [List.getElem?_map, Option.map_eq_some_iff] at hc
  obtain ⟨c, -, rfl⟩ := hc
  rw [History.mem_created, c.createsOnly.created_of_error hr hp hi]
  exact List.not_mem_nil

/-- Whatever calls there are, over whatever store and in whatever order of their steps: what is there
stays as it is; the store gains what was created, each under the name of a call that had no secret
before, and for each call once at most; and a call that fails has created nothing, and none of its
steps has changed the store. -/
theorem frame (m : MemoryStore) (calls : List EnsureCall) (schedule later : List (Nat × Answers)) :
    let start := Pool.start m (calls.map program)
    let p := start.run schedule
    let created := (start.history schedule).created
    (∀ ns name s, p.store.get? ns name = some s → (p.run later).store.get? ns name = some s) ∧
    p.store.secrets.entries = m.secrets.entries ++ created.map (fun x => (x.2.place, x.2)) ∧
    p.store.size = m.size + created.length ∧
    p.store.creates = m.creates + created.length ∧
    (created.map Prod.fst).Nodup ∧
    (∀ i s, (i, s) ∈ created → ∃ c, calls[i]? = some c ∧ s.place = (c.ns, c.secretName) ∧
      m.get? c.ns c.secretName = none) ∧
    ∀ i e, p.result? i = some (.error e) → (∀ s, (i, s) ∉ created) ∧
      ∀ before answers after, schedule = before ++ (i, answers) :: after →
        (start.run (before ++ [(i, answers)])).store = (start.run before).store := by
  intro start p created
  have hr := start.interleaving schedule
  have hcreated : Trace.created (start.history schedule).all = created.map Prod.snd :=
    (History.map_snd_created _).symm
  have hentries := MemoryStore.entries_of_happens hr.happens
  rw [hcreated, List.map_map] at hentries
  refine ⟨fun ns name s hs => ?_, hentries, ?_, ?_, nodup_created hr, fun i s => created_by hr,
    fun i e hi => ?_⟩
  · exact MemoryStore.grows_of_happens (p.interleaving later).happens hs
  · have hsize := congrArg List.length hentries
    rwa [List.length_append, List.length_map] at hsize
  · have hcreates := MemoryStore.creates_of_happens hr.happens
    rwa [hcreated, List.length_map] at hcreates
  · have hnone := not_created_of_error hr (Pool.result?_eq_some.1 hi)
    refine ⟨hnone, fun before answers after hschedule => ?_⟩
    rw [Pool.run_append]
    refine Pool.store_step_of_created _ i answers fun s hs => hnone s ?_
    rw [hschedule, List.append_cons, Pool.history_append, Pool.history_append,
      History.created_append, History.created_append]
    exact List.mem_append_left _ (List.mem_append_right _ hs)

end EnsureCall

end NodePki
