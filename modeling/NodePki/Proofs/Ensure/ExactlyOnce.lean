import NodePki.Proofs.Ensure.NodeSecret
import NodePki.Proofs.Store.Pool

/-!
# A race for one name

Calls for the secret of one node and one type, side by side over a store that has no such secret.
They differ in what they would create, and agree all the same: one of them creates, and who succeeds
answers what that one created. No call waits for another, so each ends, and none fails but for an
owner that cannot be mentioned or a certificate that cannot be issued.
-/

namespace NodePki

/-- Calls for one secret, over a store without it. -/
structure Race where
  ns : String
  podName : String
  certificateType : String
  calls : List NodeCall
  store : MemoryStore
  valid : SecretName.checkType certificateType = .ok ()
  same : ∀ c ∈ calls, c.id.ns = ns ∧ c.id.podName = podName ∧ c.certificateType = certificateType
  absent : store.get? ns (SecretName.node podName certificateType) = none

namespace Race

variable {race : Race} {s : Kube.Secret} {e : Error} {i : Nat} {c : NodeCall} {m' : MemoryStore}
  {h : History (SecretStore.sum Surroundings)} {cs' : List (Storing (Except Error Kube.Secret))}

/-- The name of the secret. -/
def name (race : Race) : String := SecretName.node race.podName race.certificateType

/-- The calls before the first step. -/
def start (race : Race) : Pool (Except Error Kube.Secret) :=
  .start race.store (race.calls.map NodeCall.program)

/-- An order of steps of the calls. -/
abbrev Runs (race : Race) (h : History (SecretStore.sum Surroundings)) (m' : MemoryStore)
    (cs' : List (Storing (Except Error Kube.Secret))) : Prop :=
  Interleaving MemoryStore.Replies race.store (race.calls.map NodeCall.program) h m' cs'

theorem ns_eq (hc : c ∈ race.calls) : c.id.ns = race.ns := (race.same c hc).1

theorem name_eq (hc : c ∈ race.calls) : c.secretName = race.name := by
  rw [NodeCall.secretName, name, (race.same c hc).2.1, (race.same c hc).2.2]

/-- All that is created is created under the name of the race. -/
theorem isAt_of_created (hr : race.Runs h m' cs') (hs : s ∈ h.all.created) :
    s.isAt race.ns race.name := by
  obtain ⟨i, c, hc, made, -⟩ := NodeCall.created_by hr hs
  have hmem := List.mem_of_getElem? hc
  rw [← ns_eq hmem, ← name_eq hmem]
  exact made.isAt

/-- The created secrets are the one that is kept, if there is one yet. -/
theorem created_eq (hr : race.Runs h m' cs') :
    h.all.created = (m'.get? race.ns race.name).toList := by
  have hall : h.all.created.filter (·.isAt race.ns race.name) = h.all.created :=
    List.filter_eq_self.2 fun _ hs => isAt_of_created hr hs
  rw [← hall, MemoryStore.created_at hr.happens, name, race.absent]
  rfl

/-- What is kept passes the check of every call. -/
theorem checkNode_of_kept (hr : race.Runs h m' cs') (hs : m'.get? race.ns race.name = some s)
    (hc : c ∈ race.calls) : s.checkNode c.secretName c.certificateType = .ok () := by
  obtain ⟨hs, -⟩ := MemoryStore.created_of_kept hr.happens hs race.absent
  obtain ⟨j, c', hc', made, -⟩ := NodeCall.created_by hr hs
  have htype : c.certificateType = c'.certificateType := by
    rw [(race.same c hc).2.2, (race.same c' (List.mem_of_getElem? hc')).2.2]
  rw [htype]
  cases made
  exact Kube.Secret.checkNode_ofNode _

theorem kept_of_ok (hr : race.Runs h m' cs') (hi : cs'[i]? = some (.done (.ok s))) :
    m'.get? race.ns race.name = some s := by
  obtain ⟨c, hc⟩ := Ensured.exists_call hr hi
  have hkept := (NodeCall.kept_of_ok hr hc hi).1
  have hmem := List.mem_of_getElem? hc
  rwa [ns_eq hmem, name_eq hmem] at hkept

/-- A call fails for its owner or its certificate only. -/
theorem cause_of_error (hr : race.Runs h m' cs') (hc : race.calls[i]? = some c)
    (hi : cs'[i]? = some (.done (.error e))) :
    ownerReference c.owner race.name = .error e ∨ c.Issues (h.client i) (.error e) := by
  have hmem := List.mem_of_getElem? hc
  cases NodeCall.fails_of_error hr hc hi with
  | refused invalid unasked =>
    rw [(race.same c hmem).2.2, race.valid] at invalid
    cases invalid
  | unowned unowned absent => exact .inl (name_eq hmem ▸ unowned)
  | unissued unissued absent => exact .inr unissued
  | judged kept judged =>
    rw [ns_eq hmem, name_eq hmem] at kept
    rw [checkNode_of_kept hr kept hmem] at judged
    cases judged

/-- Whatever the order of their steps, the calls of a race create one secret at most, all that
succeed answer that one, which the store keeps, and none fails but for its own owner or certificate;
and a call that gets its turn again and again succeeds if its owner can be mentioned and its
certificate issued. -/
theorem exactly_once (race : Race) (schedule : Nat → Nat × Answers) :
    (∀ n, let p := race.start.after schedule n
      let h := race.start.historyAfter schedule n
      h.all.created = (p.store.get? race.ns race.name).toList ∧
      p.store.creates = race.store.creates + h.all.created.length ∧
      (∀ i s, p.result? i = some (.ok s) → p.store.get? race.ns race.name = some s) ∧
      ∀ i c e, race.calls[i]? = some c → p.result? i = some (.error e) →
        ownerReference c.owner race.name = .error e ∨ c.Issues (h.client i) (.error e)) ∧
    ∀ i c reference, race.calls[i]? = some c → ownerReference c.owner race.name = .ok reference →
      (∀ n e, ¬ c.Issues ((race.start.historyAfter schedule n).client i) (.error e)) →
      (∀ n, ∃ k ≥ n, (schedule k).1 = i) →
      ∃ n s, (race.start.after schedule n).result? i = some (.ok s) := by
  have hr : ∀ n, race.Runs (race.start.historyAfter schedule n) _ _ := fun n =>
    race.start.interleaving ((List.range n).map schedule)
  refine ⟨fun n => ⟨created_eq (hr n), MemoryStore.creates_of_happens (hr n).happens, ?_, ?_⟩, ?_⟩
  · intro i s hi
    exact kept_of_ok (hr n) (Pool.result?_eq_some.1 hi)
  · intro i c e hc hi
    exact cause_of_error (hr n) hc (Pool.result?_eq_some.1 hi)
  · intro i c reference hc howner hissue hturns
    have hi : i < race.start.clients.length := by
      simpa [start, Pool.start] using (List.getElem?_eq_some_iff.1 hc).1
    obtain ⟨n, r, hn⟩ := race.start.exists_done hi hturns
    cases r with
    | ok s => exact ⟨n, s, hn⟩
    | error e =>
      rcases cause_of_error (hr n) hc (Pool.result?_eq_some.1 hn) with howner' | hissue'
      · rw [howner] at howner'
        cases howner'
      · exact absurd hissue' (hissue n e)

/-- Two calls that would create different secrets of one node. -/
def prepared : Race where
  ns := "prod"
  podName := "data-0"
  certificateType := "elasticsearch.all"
  calls := [.prepared "data-0",
    { NodeCall.prepared "data-0" with issue := pure ⟨"another key", "another chain"⟩ }]
  store := .empty
  valid := rfl
  same := by simp [NodeCall.prepared]
  absent := rfl

/-- The second of them, in turn with the first, succeeds, and answers what is kept. -/
theorem exactly_once_prepared :
    ∃ schedule n s, (prepared.start.after schedule n).result? 1 = some (.ok s) ∧
      (prepared.start.after schedule n).store.get? "prod" prepared.name = some s := by
  let schedule : Nat → Nat × Answers := fun n => (n % 2, Pool.blank)
  obtain ⟨hsafe, hlive⟩ := prepared.exactly_once schedule
  have hissue : ∀ n e, ¬ NodeCall.Issues
      { NodeCall.prepared "data-0" with issue := pure ⟨"another key", "another chain"⟩ }
      ((prepared.start.historyAfter schedule n).client 1) (.error e) := by
    rintro n e ⟨during, after, -, hleads⟩
    nomatch hleads
  have hturns : ∀ n, ∃ k ≥ n, (schedule k).1 = 1 :=
    fun n => ⟨2 * n + 1, by omega, by simp [schedule]⟩
  obtain ⟨n, s, hn⟩ := hlive 1 _ _ rfl rfl hissue hturns
  exact ⟨schedule, n, s, hn, (hsafe n).2.2.1 1 s hn⟩

end Race

end NodePki
