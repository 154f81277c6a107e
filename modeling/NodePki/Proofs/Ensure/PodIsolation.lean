import NodePki.Proofs.Ensure.NodeSecret
import NodePki.Proofs.Secret.Name
import NodePki.Proofs.Store.Pool

/-!
# Secrets of other pods

When a call is answered the secret of another pod. The check of a secret that there is looks at the
type and not at the pod, so all depends on the names: `isolated_iff` says that calls are kept apart
exactly if no two of them, for different pods, meet under one name. Names do meet, as a run of
dashes is written as one (`not_isolated_dashes`); pods without such runs are kept apart
(`isolated_of_single_dashes`).
-/

namespace NodePki.NodeCall

/-- Two calls are for one name, and for one type. -/
structure Meets (c c' : NodeCall) : Prop where
  ns : c.id.ns = c'.id.ns
  secretName : c.secretName = c'.secretName
  certificateType : c.certificateType = c'.certificateType

/-- In every run over the empty store each call that succeeds answers a secret of its own pod. -/
def Isolated (calls : List NodeCall) : Prop :=
  ∀ schedule i c s, calls[i]? = some c →
    ((Pool.start .empty (calls.map program)).run schedule).result? i = some (.ok s) →
      s.metadata.label? Label.associatedPod = some c.id.podName

variable {calls : List NodeCall} {c c' : NodeCall} {s : Kube.Secret} {i : Nat}
  {m' : MemoryStore} {t : Trace (SecretStore.sum Surroundings)}
  {h : History (SecretStore.sum Surroundings)} {cs' : List (Storing (Except Error Kube.Secret))}

/-- Over the empty store a call that succeeds answers the secret of a call that it meets. -/
theorem exists_meets (hr : Interleaving MemoryStore.Replies .empty (calls.map program) h m' cs')
    (hc : calls[i]? = some c) (hi : cs'[i]? = some (.done (.ok s))) :
    ∃ c₀ ∈ calls, c₀.CanCreate ∧ c₀.Meets c ∧
      s.metadata.label? Label.associatedPod = some c₀.id.podName := by
  obtain ⟨hkept, hcheck⟩ := kept_of_ok hr hc hi
  obtain ⟨j, c₀, hc₀, made, hns, hname⟩ := made_of_kept hr hkept
  refine ⟨c₀, List.mem_of_getElem? hc₀, made.canCreate, ?_⟩
  cases made
  have htype := Kube.Secret.checkNode_ofNode_iff.1 hcheck
  exact ⟨⟨hns, hname, htype⟩, Kube.Secret.associatedPod_ofNode⟩

/-- A call that can create, and then one that meets it, have a run in which both answer what the
first created. -/
theorem exists_shared (hi : calls[i]? = some c) {j : Nat} (hj : calls[j]? = some c') (hij : i ≠ j)
    (hcreate : c.CanCreate) (hmeets : c.Meets c') :
    ∃ schedule s, s.metadata.label? Label.associatedPod = some c.id.podName ∧
      ((Pool.start .empty (calls.map program)).run schedule).result? i = some (.ok s) ∧
      ((Pool.start .empty (calls.map program)).run schedule).result? j = some (.ok s) := by
  obtain ⟨t, s, hrun, made, hhappens⟩ := exists_creating hcreate
  obtain ⟨m', hm', added⟩ := hhappens .empty rfl
  have hkept := added.get?_self
  have hcheck : s.checkNode c'.secretName c'.certificateType = .ok () := by
    cases made
    exact Kube.Secret.checkNode_ofNode_iff.2 hmeets.certificateType
  obtain ⟨t', hrun', hhappens'⟩ := exists_finding (hmeets.certificateType ▸ hcreate.1) hcheck
  rw [hmeets.ns, hmeets.secretName] at hkept
  obtain ⟨schedule, -, hfirst, hsecond⟩ := Pool.exists_in_turn hij
    (show (calls.map program)[i]? = some c.program by simp [hi]) hrun hm'
    (show (calls.map program)[j]? = some c'.program by simp [hj]) hrun' (hhappens' m' hkept)
  refine ⟨schedule, s, ?_, hfirst, hsecond⟩
  cases made
  exact Kube.Secret.associatedPod_ofNode

theorem isolated_of_separate (h : ∀ c ∈ calls, c.CanCreate → ∀ c' ∈ calls, c.Meets c' →
    c.id.podName = c'.id.podName) : Isolated calls := by
  intro schedule i c s hc hs
  have hr := (Pool.start .empty (calls.map program)).interleaving schedule
  obtain ⟨c₀, hc₀, hcreate, hmeets, hpod⟩ := exists_meets hr hc (Pool.result?_eq_some.1 hs)
  rw [hpod, h c₀ hc₀ hcreate c (List.mem_of_getElem? hc) hmeets]

/-- Calls are kept apart exactly if those that meet one that can create are for the same pod. -/
theorem isolated_iff (calls : List NodeCall) :
    Isolated calls ↔
      ∀ c ∈ calls, c.CanCreate → ∀ c' ∈ calls, c.Meets c' → c.id.podName = c'.id.podName := by
  refine ⟨fun hisolated c hc hcreate c' hc' hmeets => ?_, isolated_of_separate⟩
  obtain ⟨i, hi⟩ := List.getElem?_of_mem hc
  obtain ⟨j, hj⟩ := List.getElem?_of_mem hc'
  by_cases hij : i = j
  · subst hij
    rw [hi] at hj
    rw [Option.some.inj hj]
  · obtain ⟨schedule, s, hpod, -, hs⟩ := exists_shared hi hj hij hcreate hmeets
    have hpod' := hisolated schedule j c' s hj hs
    rw [hpod] at hpod'
    exact Option.some.inj hpod'

/-- Pods whose names differ in a run of dashes are not kept apart. -/
theorem not_isolated_dashes :
    SecretName.isSubdomain "data-0" ∧ SecretName.isSubdomain "data--0" ∧
      SecretName.checkType "elasticsearch.all" = .ok () ∧
      ¬ Isolated [prepared "data-0", prepared "data--0"] := by
  refine ⟨by decide, by decide, rfl, fun h => ?_⟩
  -- the first call reads, creates and reports; the second one reads and reports
  have hpod := h [(0, Pool.blank), (0, Pool.blank), (0, Pool.blank), (1, Pool.blank),
    (1, Pool.blank)] 1 _ _ rfl rfl
  exact absurd hpod (by decide)

/-- Pods without two dashes in a row are kept apart, if their names are not too long. -/
theorem isolated_of_single_dashes (hpods : ∀ c ∈ calls, SecretName.isSubdomain c.id.podName ∧
    c.id.podName.toList.length ≤ SecretName.maxPodLength ∧
    ¬ ['-', '-'] <:+: c.id.podName.toList) : Isolated calls := by
  refine isolated_of_separate fun c hc hcreate c' hc' hmeets => ?_
  obtain ⟨hp, hfits, hdash⟩ := hpods c hc
  obtain ⟨hp', hfits', hdash'⟩ := hpods c' hc'
  have hname := hmeets.secretName
  rw [secretName, secretName, ← hmeets.certificateType,
    SecretName.node_eq_node_iff hcreate.1 hp hp' hfits hfits',
    SecretName.collapse_eq_self hdash (by simp),
    SecretName.collapse_eq_self hdash' (by simp)] at hname
  exact String.toList_injective hname

end NodePki.NodeCall
