import NodePki.Proofs.Secret.Name
import NodePki.Proofs.Template
import NodePki.Proofs.Text.Split

/-!
# Canonical names

When two nodes have one canonical name. The names of pod, cluster and namespace are put together with
points, and the word `node` between the first two. A namespace has no point in its name, so it can be
told from the rest. Pods and clusters may have points in theirs, and parts that are the word `node`:
where it stands more than once the name of the pod may end at either, which is the only way for two
nodes to share a name (`commonName_eq_iff`).
-/

namespace NodePki

open SecretName (isDomainLabel isSubdomain isLabelValue)

namespace NodeIdentity

/-- The parts of a name, between its points. -/
def parts (name : String) : List (List Char) := Text.splitOn '.' name.toList

/-- The part between the names of pod and cluster. -/
def nodePart : List Char := "node".toList

theorem parts_injective : Function.Injective parts :=
  fun _ _ h => String.toList_injective (Text.splitOn_injective '.' h)

/-- The name of one pod goes on after the word `node` where that of the other ends, with which parts of
a cluster's name become parts of the other pod's. -/
def GoesOn (id id' : NodeIdentity) : Prop :=
  ∃ between, parts id'.podName = parts id.podName ++ nodePart :: between ∧
    parts id.clusterName = between ++ nodePart :: parts id'.clusterName

/-- The names of pod and cluster are the same, or a part of one name in those of the other. -/
def SharesName (id id' : NodeIdentity) : Prop :=
  id.podName = id'.podName ∧ id.clusterName = id'.clusterName ∨ id.GoesOn id' ∨ id'.GoesOn id

variable {id id' : NodeIdentity}

/-- The parts of a canonical name, if the namespace is one. -/
theorem parts_canonicalName (hns : '.' ∉ id.ns.toList) :
    parts id.canonicalName =
      parts id.podName ++ nodePart :: parts id.clusterName ++ [id.ns.toList] ++ parts domain := by
  have htext : id.canonicalName.toList =
      id.podName.toList ++ '.' :: (nodePart ++ '.' :: (id.clusterName.toList ++
        '.' :: (id.ns.toList ++ '.' :: domain.toList))) := by
    simp [canonicalName, nodePart, toString]
  have hnode : Text.splitOn '.' nodePart = [nodePart] := by decide
  rw [parts, htext]
  simp only [Text.splitOn_append, hnode, Text.splitOn_of_not_mem hns, parts, List.append_assoc,
    List.cons_append, List.nil_append]

/-- Two nodes have one canonical name exactly if they are in one namespace and the names of pod and
cluster are the same, or the word between them is found twice. -/
theorem canonicalName_eq_iff (hns : '.' ∉ id.ns.toList) (hns' : '.' ∉ id'.ns.toList) :
    id.canonicalName = id'.canonicalName ↔ id.ns = id'.ns ∧ id.SharesName id' := by
  have hends : parts id.canonicalName = parts id'.canonicalName ↔
      parts id.podName ++ nodePart :: parts id.clusterName =
        parts id'.podName ++ nodePart :: parts id'.clusterName ∧ id.ns.toList = id'.ns.toList := by
    rw [parts_canonicalName hns, parts_canonicalName hns', List.append_left_inj,
      List.append_singleton_inj]
  rw [← parts_injective.eq_iff, hends, Text.append_cons_eq_append_cons_iff, parts_injective.eq_iff,
    parts_injective.eq_iff, String.toList_inj, and_comm]
  rfl

/-- In clusters whose names do not have the word as a part, no two nodes have one canonical name. -/
theorem names_eq_of_canonicalName_eq (hns : '.' ∉ id.ns.toList) (hns' : '.' ∉ id'.ns.toList)
    (hcluster : nodePart ∉ parts id.clusterName) (hcluster' : nodePart ∉ parts id'.clusterName)
    (h : id.canonicalName = id'.canonicalName) :
    id.podName = id'.podName ∧ id.clusterName = id'.clusterName ∧ id.ns = id'.ns := by
  obtain ⟨hsame, ⟨hpod, hname⟩ | ⟨between, -, hparts⟩ | ⟨between, -, hparts⟩⟩ :=
    (canonicalName_eq_iff hns hns').1 h
  · exact ⟨hpod, hname, hsame⟩
  · exact absurd (hparts ▸ List.mem_append_right _ List.mem_cons_self) hcluster
  · exact absurd (hparts ▸ List.mem_append_right _ List.mem_cons_self) hcluster'

/-- A node whose cluster has the word between the parts of its name. -/
def blue : NodeIdentity := ⟨"data-0", "10.0.0.7", "blue.node.green", "prod"⟩

/-- A node whose pod has it. -/
def green : NodeIdentity := ⟨"data-0.node.blue", "10.0.0.7", "green", "prod"⟩

end NodeIdentity

namespace Template

open NodeIdentity (blue green)

variable {κ κ' : Type} {now now' : Instant} {id id' : NodeIdentity}
  {services services' : List ServiceEndpoint} {publicKey : Option κ} {publicKey' : Option κ'}
  {validity validity' : Duration} {t : Template κ} {t' : Template κ'}

/-- Templates of two nodes have one common name exactly if they have one other name, and that is so
exactly if the nodes are in one namespace and the names of pod and cluster are the same, or the word
between them is found twice. -/
theorem commonName_eq_iff (built : build now id services publicKey validity = .ok t)
    (built' : build now' id' services' publicKey' validity' = .ok t')
    (hns : isDomainLabel id.ns.toList) (hns' : isDomainLabel id'.ns.toList) :
    (t.commonName = t'.commonName ↔ t.otherName = t'.otherName) ∧
      (t.commonName = t'.commonName ↔ id.ns = id'.ns ∧ id.SharesName id') := by
  have isFor := (isFor_of_build built).1
  have isFor' := (isFor_of_build built').1
  rw [isFor.commonName, isFor'.commonName, isFor.otherName, isFor'.otherName]
  refine ⟨by simp, NodeIdentity.canonicalName_eq_iff ?_ ?_⟩
  · exact SecretName.point_not_mem_of_isDomainLabel hns
  · exact SecretName.point_not_mem_of_isDomainLabel hns'

/-- The pods and clusters of two nodes with one common name may be different, and all their names
legal. -/
theorem commonName_not_unique :
    ∃ t t' : Template Unit, build ⟨0⟩ blue [] (some ()) (.ofSeconds 86400) = .ok t ∧
      build ⟨0⟩ green [] (some ()) (.ofSeconds 86400) = .ok t' ∧
      (isSubdomain blue.podName ∧ isLabelValue blue.clusterName ∧ isDomainLabel blue.ns.toList) ∧
      (isSubdomain green.podName ∧ isLabelValue green.clusterName ∧
        isDomainLabel green.ns.toList) ∧
      t.commonName = t'.commonName ∧ blue.podName ≠ green.podName ∧
      blue.clusterName ≠ green.clusterName :=
  ⟨_, _, rfl, rfl, by decide, by decide, by decide, by decide, by decide⟩

/-- The two nodes share a name as the one goes on where the other ends. -/
theorem commonName_eq_iff_blue_green :
    ∃ t t' : Template Unit, build ⟨0⟩ blue [] (some ()) (.ofSeconds 86400) = .ok t ∧
      build ⟨0⟩ green [] (some ()) (.ofSeconds 86400) = .ok t' ∧
      isDomainLabel blue.ns.toList ∧ isDomainLabel green.ns.toList ∧
      (t.commonName = t'.commonName ↔ t.otherName = t'.otherName) ∧
      (t.commonName = t'.commonName ↔ blue.ns = green.ns ∧ blue.SharesName green) ∧
      blue.GoesOn green := by
  have hns : isDomainLabel blue.ns.toList := by decide
  have hns' : isDomainLabel green.ns.toList := by decide
  obtain ⟨t, built⟩ : ∃ t : Template Unit,
      build ⟨0⟩ blue [] (some ()) (.ofSeconds 86400) = .ok t := ⟨_, rfl⟩
  obtain ⟨t', built'⟩ : ∃ t : Template Unit,
      build ⟨0⟩ green [] (some ()) (.ofSeconds 86400) = .ok t := ⟨_, rfl⟩
  obtain ⟨hother, hshares⟩ := commonName_eq_iff built built' hns hns'
  exact ⟨t, t', built, built', hns, hns', hother, hshares, ["blue".toList], by decide, by decide⟩

end Template

end NodePki
