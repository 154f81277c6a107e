import NodePki.Proofs.Ensure.NodeSecret
import NodePki.Proofs.Secret.Name

/-!
# The labels of created secrets

A call for a node's secret creates it with the type and the pod in two labels, whatever labels it was
given (`NodeCall.labels_of_creates`). A type that cannot be the value of a label is refused before
anything is asked. The name of the pod is not looked at: of legal names those that are too long for a
label are written all the same (`NodeCall.systemLabels_legal_iff`).
-/

namespace NodePki

namespace NodeCall

open SecretName (isSubdomain isLabelValue maxLabelValue)

/-- In some run, whatever a store answers, the call asks for the secret to be created. -/
def Creates (c : NodeCall) (s : Kube.Secret) : Prop :=
  ∃ t ns next, c.program.Leads t (.ask (.inl (.create ns s)) next)

/-- Every secret that the call asks for has the label, with a value that can be one. -/
def WritesLegal (c : NodeCall) (label : String) : Prop :=
  ∀ s, c.Creates s → ∃ value, s.metadata.label? label = some value ∧ isLabelValue value

variable {c : NodeCall} {s : Kube.Secret}

theorem makes_of_creates (h : c.Creates s) : ∃ t, c.Makes t s := by
  obtain ⟨t, ns, next, hleads⟩ := h
  have hasks := (Program.along_ask.1 (c.along.leads hleads)).1
  cases hasks with
  | create made absent => exact ⟨t, made.1⟩

/-- What is created names the type and the pod of the call. -/
theorem labels_of_creates (h : c.Creates s) :
    s.metadata.label? Label.certificateType = some c.certificateType ∧
      s.metadata.label? Label.associatedPod = some c.id.podName := by
  obtain ⟨t, made⟩ := makes_of_creates h
  cases made
  exact ⟨Kube.Secret.certificateType_ofNode, Kube.Secret.associatedPod_ofNode⟩

theorem canCreate_of_creates (h : c.Creates s) : c.CanCreate := by
  obtain ⟨t, made⟩ := makes_of_creates h
  exact made.canCreate

theorem exists_creates (h : c.CanCreate) : ∃ s, c.Creates s := by
  obtain ⟨valid, ⟨reference, owned⟩, u, issued, hissue⟩ := h
  exact ⟨_, _, _, _, Program.leads_check valid <| Program.leads_get none <|
    Program.leads_check owned <| Program.leads_aside hissue <| .refl _⟩

/-- The type is checked before it is written. -/
theorem writesLegal_certificateType (c : NodeCall) : c.WritesLegal Label.certificateType := by
  intro s hs
  have valid := SecretName.isLabelValue_of_checkType (canCreate_of_creates hs).1
  exact ⟨c.certificateType, (labels_of_creates hs).1, valid⟩

/-- The pod is written as it is. -/
theorem writesLegal_associatedPod_iff :
    c.WritesLegal Label.associatedPod ↔ (c.CanCreate → isLabelValue c.id.podName) := by
  constructor
  · intro h hcreate
    obtain ⟨s, hs⟩ := exists_creates hcreate
    obtain ⟨value, hlabel, hvalue⟩ := h s hs
    rw [(labels_of_creates hs).2] at hlabel
    exact Option.some.inj hlabel ▸ hvalue
  · intro h s hs
    exact ⟨c.id.podName, (labels_of_creates hs).2, h (canCreate_of_creates hs)⟩

/-- The type that is written is always the value of a label. The pod is exactly if the call cannot
create anything or the pod's name is not too long for one. -/
theorem systemLabels_legal_iff (hpod : isSubdomain c.id.podName) :
    c.WritesLegal Label.certificateType ∧
      (c.WritesLegal Label.associatedPod ↔
        (c.CanCreate → c.id.podName.toList.length ≤ maxLabelValue)) := by
  rw [writesLegal_associatedPod_iff, SecretName.isLabelValue_iff_of_isSubdomain hpod]
  exact ⟨writesLegal_certificateType c, Iff.rfl⟩

/-- A name that a pod may have and that is one character too long for a label. -/
def longPod : String := "data-00000000000000000000000000000000000000000000000000000000000"

theorem not_systemLabels_legal_long :
    isSubdomain (prepared longPod).id.podName ∧
      ¬ (prepared longPod).WritesLegal Label.associatedPod := by
  have hlong : ¬ isLabelValue (prepared longPod).id.podName := by decide +kernel
  refine ⟨by decide +kernel, fun h => hlong ?_⟩
  exact writesLegal_associatedPod_iff.1 h (canCreate_prepared longPod)

/-- The usual names are not too long. -/
theorem systemLabels_legal_usual :
    isSubdomain (prepared "data-0").id.podName ∧
      (prepared "data-0").WritesLegal Label.certificateType ∧
      (prepared "data-0").WritesLegal Label.associatedPod := by
  have hpod : isSubdomain (prepared "data-0").id.podName := by decide
  obtain ⟨htype, hlabel⟩ := systemLabels_legal_iff hpod
  exact ⟨hpod, htype, hlabel.2 fun _ => by decide⟩

end NodeCall

end NodePki
