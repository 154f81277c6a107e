import NodePki.Secret.Content
import NodePki.Text.Utf8.Lemmas

/-!
# What the secrets that are created hold

The labels and entries of the secrets that the program makes for nodes and authorities, as the
program itself reads them again, and that a node's secret passes the check of its type.
-/

namespace NodePki

/-- The labels of a node are those of the caller, but for the type and the pod. -/
theorem Label.get?_ofNode (podName certificateType : String) (extra : Kube.TextMap) (key : String) :
    (ofNode podName certificateType extra).get? key =
      if key = associatedPod then some podName
      else if key = Label.certificateType then some certificateType
      else extra.get? key := by
  rw [ofNode, Dict.get?_insert, Dict.get?_insert]

namespace Kube.Secret

/-- A text that can be read is kept as its octets. -/
theorem text_eq_ok {s : Secret} {name key text : String} :
    s.text name key = .ok text ↔ s.octets? key = some (Utf8.encode text) := by
  unfold Secret.text
  cases s.octets? key with
  | none => simp
  | some octets =>
    rw [Option.some.injEq, ← Utf8.decode_eq_ok_iff]
    cases hd : Utf8.decode octets <;> simp [hd]

/-- A secret that passes the check of a type, and names one, names that one. -/
theorem certificateType_of_checkNode {s : Secret} {called expected named : String}
    (h : s.checkNode called expected = .ok ())
    (hlabel : s.metadata.label? Label.certificateType = some named) : named = expected := by
  simp only [checkNode, hlabel, Option.all_some, decide_eq_true_eq] at h
  split at h
  · assumption
  · cases h

/-- A secret that names another type is refused for that, whatever it holds. -/
theorem checkNode_of_ne {s : Secret} {called expected named : String}
    (hlabel : s.metadata.label? Label.certificateType = some named) (hne : named ≠ expected) :
    s.checkNode called expected = .error (.store (.typeMismatch called named expected)) := by
  simp [checkNode, hlabel, hne]

/-- What a secret must be where a node's is expected: a type that it names is that one, and it holds
the key and the chain or neither. -/
structure FitsNode (s : Secret) (certificateType : String) : Prop where
  ofType : ∀ named, s.metadata.label? Label.certificateType = some named → named = certificateType
  whole : (s.octets? Entry.nodeKey).isSome ↔ (s.octets? Entry.nodeChain).isSome

/-- The check passes the secrets that fit, whatever they are called. -/
theorem checkNode_eq_ok_iff {s : Secret} (called : String) {expected : String} :
    s.checkNode called expected = .ok () ↔ s.FitsNode expected := by
  constructor
  · intro h
    refine ⟨fun named => certificateType_of_checkNode h, ?_⟩
    unfold checkNode at h
    grind
  · rintro ⟨ofType, whole⟩
    have agrees : (s.metadata.label? Label.certificateType).all (· = expected) := by
      rw [Option.all_eq_true]
      exact fun named hnamed => decide_eq_true (ofType named hnamed)
    rw [checkNode, if_pos agrees, if_pos (Bool.eq_iff_iff.2 whole)]

/-- Where the check fails it blames the store. -/
theorem store_of_checkNode {s : Secret} {called expected : String} {e : Error}
    (h : s.checkNode called expected = .error e) : ∃ fault, e = .store fault := by
  unfold checkNode at h
  grind

section Node

variable {name ns podName certificateType : String} {extra : TextMap} {owner : OwnerReference}
  {issued : IssuedCertificate}

@[simp] theorem certificateType_ofNode :
    (ofNode name ns podName certificateType extra owner issued).metadata.label?
      Label.certificateType = some certificateType := by
  have hne : Label.certificateType ≠ Label.associatedPod := by decide
  simp [ofNode, Metadata.label?, Label.ofNode, Dict.get?_insert_of_ne _ _ hne]

@[simp] theorem associatedPod_ofNode :
    (ofNode name ns podName certificateType extra owner issued).metadata.label?
      Label.associatedPod = some podName := by
  simp [ofNode, Metadata.label?, Label.ofNode]

@[simp] theorem nodeKey_ofNode :
    (ofNode name ns podName certificateType extra owner issued).octets? Entry.nodeKey =
      some (Utf8.encode issued.privateKeyPem) := by
  have hne : Entry.nodeKey ≠ Entry.nodeChain := by decide
  simp [ofNode, octets?, Dict.ofList, Dict.get?_insert_of_ne _ _ hne]

@[simp] theorem nodeChain_ofNode :
    (ofNode name ns podName certificateType extra owner issued).octets? Entry.nodeChain =
      some (Utf8.encode issued.certificateChainPem) := by
  simp [ofNode, octets?, Dict.ofList]

/-- The secret of a node passes the check of its type, whatever it is called, and of no other
type. -/
theorem checkNode_ofNode_iff {called expected : String} :
    (ofNode name ns podName certificateType extra owner issued).checkNode called expected =
      .ok () ↔ certificateType = expected := by
  simp [checkNode]

theorem checkNode_ofNode (called : String) :
    (ofNode name ns podName certificateType extra owner issued).checkNode called certificateType =
      .ok () :=
  checkNode_ofNode_iff.2 rfl

end Node

section Authority

variable {name ns clusterName certificatePem keyPem : String}

@[simp] theorem authorityCertificate_ofAuthority :
    (ofAuthority name ns clusterName certificatePem keyPem).octets? Entry.authorityCertificate =
      some (Utf8.encode certificatePem) := by
  have hne : Entry.authorityCertificate ≠ Entry.authorityKey := by decide
  simp [ofAuthority, octets?, Dict.ofList, Dict.get?_insert_of_ne _ _ hne]

@[simp] theorem authorityKey_ofAuthority :
    (ofAuthority name ns clusterName certificatePem keyPem).octets? Entry.authorityKey =
      some (Utf8.encode keyPem) := by
  simp [ofAuthority, octets?, Dict.ofList]

/-- There is no key of a node in the secret of an authority. -/
@[simp] theorem nodeKey_ofAuthority :
    (ofAuthority name ns clusterName certificatePem keyPem).octets? Entry.nodeKey = none := by
  have hne : Entry.nodeKey ≠ Entry.authorityKey := by decide
  have hne' : Entry.nodeKey ≠ Entry.authorityCertificate := by decide
  simp [ofAuthority, octets?, Dict.ofList, Dict.get?_insert_of_ne _ _ hne,
    Dict.get?_insert_of_ne _ _ hne']

end Authority

end Kube.Secret

end NodePki
