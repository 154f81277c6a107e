import NodePki.Encoding.Base64
import NodePki.Kube.Failure
import NodePki.Kube.Object
import NodePki.Kube.Schema.Pod
import NodePki.Kube.Schema.Service

/-!
# Cluster objects as JSON

Reading is strict on all members that are known: each has its type, and a kind or version that is
given is the expected one. Unknown members are passed over, and `null` counts as absent. Of several
members with one name each has to be readable, and the last one counts.
-/

namespace NodePki.Kube

open NodePki.Json (objectOfPresent)

/-- Reads a member that may be absent or null. -/
def optional {α : Type} (j : Json) (name : String) (read : Json → Option α) :
    Option (Option α) :=
  (j.values name).foldlM
    (fun _ v => if v.isNull then some none else (read v).map some) none

/-- Reads an object whose values are all of one type. -/
def readDict {α : Type} (read : Json → Option α) (j : Json) : Option (Dict String α) := do
  let members ← j.members?
  let entries ← members.mapM fun (name, v) => (read v).map (name, ·)
  return Dict.ofList entries

/-- Reads a map of texts. -/
def readTextMap : Json → Option TextMap := readDict Json.string?

/-- Reads octets in base64; null stands for none. -/
def readOctets (j : Json) : Option Bytes :=
  if j.isNull then some [] else j.string?.bind Base64.decode

/-- Reads a moment. -/
def readTimestamp (j : Json) : Option Timestamp := j.string?.bind Timestamp.read?

/-- The range of the whole numbers in metadata. -/
def readInt64 (j : Json) : Option Int := do
  let n ← j.int?
  if -Int.pow 2 63 ≤ n ∧ n < Int.pow 2 63 then return n else none

/-- Reads a mention of an owner; texts that are missing are empty. -/
def readOwnerReference (j : Json) : Option OwnerReference := do
  let _ ← j.members?
  let text (name : String) := (optional j name Json.string?).map (·.getD "")
  return {
    apiVersion := ← text "apiVersion"
    kind := ← text "kind"
    name := ← text "name"
    uid := ← text "uid"
    controller := ← optional j "controller" Json.bool?
    blockOwnerDeletion := ← optional j "blockOwnerDeletion" Json.bool? }

/-- Reads an array whose items are all of one type. -/
def readList {α : Type} (read : Json → Option α) (j : Json) : Option (List α) := do
  let items ← j.array?
  items.mapM read

/-- Reads who keeps which members; the members may be `depth` deep. -/
def readManagedFields (depth : Nat) (j : Json) : Option ManagedFields := do
  let _ ← j.members?
  let text (name : String) := optional j name Json.string?
  return {
    apiVersion := ← text "apiVersion"
    fieldsType := ← text "fieldsType"
    fields := ← optional j "fieldsV1" (Json.settle? depth)
    manager := ← text "manager"
    operation := ← text "operation"
    subresource := ← text "subresource"
    time := ← optional j "time" readTimestamp }

/-- Reads what is known about an object, which may be `depth` deep as a whole. -/
def readMetadata (depth : Nat) (j : Json) : Option Metadata := do
  let _ ← j.members?
  let text (name : String) := optional j name Json.string?
  return {
    name := ← text "name"
    generateName := ← text "generateName"
    ns := ← text "namespace"
    uid := ← text "uid"
    resourceVersion := ← text "resourceVersion"
    selfLink := ← text "selfLink"
    generation := ← optional j "generation" readInt64
    creationTimestamp := ← optional j "creationTimestamp" readTimestamp
    deletionTimestamp := ← optional j "deletionTimestamp" readTimestamp
    deletionGraceSeconds := ← optional j "deletionGracePeriodSeconds" readInt64
    labels := ← optional j "labels" readTextMap
    annotations := ← optional j "annotations" readTextMap
    ownerReferences := ← optional j "ownerReferences" (readList readOwnerReference)
    finalizers := ← optional j "finalizers" (readList Json.string?)
    managedFields := ← optional j "managedFields" (readList (readManagedFields (depth - 4))) }

/-- Refuses an object that says it is of another version or kind. -/
def checkKind (kind : String) (j : Json) : Option Unit := do
  let _ ← j.members?
  let agrees (name expected : String) : Bool :=
    (j.values name).all fun v => v.string? == some expected
  if agrees "apiVersion" apiVersion && agrees "kind" kind then return () else none

/-- The metadata of an object; without any it is empty. -/
def metadataOf (depth : Nat) (j : Json) : Option Metadata :=
  (optional j "metadata" (readMetadata depth)).map (·.getD {})

/-- Reads a member of a member that may be absent or null, as may the outer one. -/
def optionalWithin {α : Type} (j : Json) (outer name : String) (read : Json → Option α) :
    Option (Option α) :=
  (optional j outer fun v => do
    let _ ← v.members?
    optional v name read).map (·.bind id)

/-- Refuses an object whose purpose or state does not fit. -/
def checkParts (spec status : Schema) (j : Json) : Option Unit :=
  if (Schema.object [("spec", spec), ("status", status)]).admits j then some () else none

/-- Reads a pod. -/
def readPod (j : Json) : Option Pod := do
  checkKind Kind.pod.name j
  checkParts Schema.podSpec Schema.podStatus j
  return {
    metadata := ← metadataOf Json.maxDepth j
    address := ← optionalWithin j "status" "podIP" Json.string? }

/-- Reads a service, which may be `depth` deep. -/
def readServiceWithin (depth : Nat) (j : Json) : Option Service := do
  checkKind Kind.service.name j
  checkParts Schema.serviceSpec Schema.serviceStatus j
  return {
    metadata := ← metadataOf depth j
    address := ← optionalWithin j "spec" "clusterIP" Json.string? }

/-- Reads a service. -/
def readService : Json → Option Service := readServiceWithin Json.maxDepth

/-- Reads a secret. -/
def readSecret (j : Json) : Option Secret := do
  checkKind Kind.secret.name j
  return {
    metadata := ← metadataOf Json.maxDepth j
    data := ← optional j "data" (readDict readOctets)
    stringData := ← optional j "stringData" readTextMap
    type := ← optional j "type" Json.string?
    immutable := ← optional j "immutable" Json.bool? }

/-- The value of the only member with a name, if there is one; it is refused to have more. -/
def only? (j : Json) (name : String) : Option (Option Json) :=
  match j.values name with
  | [] => some none
  | [v] => some (some v)
  | _ => none

/-- Reads a list of services. What kind of list it says it is does not matter, but all that it says
has to be readable. -/
def readServices (j : Json) : Option (List Service) := do
  let others := (← j.members?).filter fun m => m.1 ≠ "metadata" && m.1 ≠ "items"
  let _ ← Json.settle? Json.maxDepth (.object others)
  let metadata ← only? j "metadata"
  let items ← ← only? j "items"
  if !metadata.all Schema.listMetadata.admits then none
  else if items.isNull then return []
  else readList (readServiceWithin (Json.maxDepth - 2)) items

/-- The refusal that some values tell; status and a code of sixteen bits are required. -/
def statusOf? (status message reason code : Option Json) : Option Status := do
  let text (v : Option Json) : Option String := v.elim (some "") Json.string?
  let code ← (← code).nat?
  if code < UInt16.size then
    return {
      status := ← (← status).string?, message := ← text message, reason := ← text reason, code }
  else none

/-- Reads a refusal: an object in which nothing is told twice, or an array of all that it tells. -/
def readStatus : Json → Option Status
  | .array [status, message, reason, code] =>
    statusOf? (some status) (some message) (some reason) (some code)
  | j => do
    statusOf? (← only? j "status") (← only? j "message") (← only? j "reason") (← only? j "code")

/-- Writes a map of texts. -/
def textMapJson (m : TextMap) : Json := .object (m.entries.map fun e => (e.1, .string e.2))

/-- Writes a mention of an owner. -/
def OwnerReference.json (r : OwnerReference) : Json :=
  objectOfPresent [
    ("apiVersion", some (.string r.apiVersion)),
    ("blockOwnerDeletion", r.blockOwnerDeletion.map .bool),
    ("controller", r.controller.map .bool),
    ("kind", some (.string r.kind)),
    ("name", some (.string r.name)),
    ("uid", some (.string r.uid))]

/-- Writes a moment. -/
def timestampJson (t : Timestamp) : Json := .string t.text

/-- Writes who keeps which members. -/
def ManagedFields.json (m : ManagedFields) : Json :=
  objectOfPresent [
    ("apiVersion", m.apiVersion.map .string),
    ("fieldsType", m.fieldsType.map .string),
    ("fieldsV1", m.fields),
    ("manager", m.manager.map .string),
    ("operation", m.operation.map .string),
    ("subresource", m.subresource.map .string),
    ("time", m.time.map timestampJson)]

/-- Writes what is known about an object. -/
def Metadata.json (m : Metadata) : Json :=
  objectOfPresent [
    ("annotations", m.annotations.map textMapJson),
    ("creationTimestamp", m.creationTimestamp.map timestampJson),
    ("deletionGracePeriodSeconds", m.deletionGraceSeconds.map .ofInt),
    ("deletionTimestamp", m.deletionTimestamp.map timestampJson),
    ("finalizers", m.finalizers.map fun l => .array (l.map .string)),
    ("generateName", m.generateName.map .string),
    ("generation", m.generation.map .ofInt),
    ("labels", m.labels.map textMapJson),
    ("managedFields", m.managedFields.map fun l => .array (l.map ManagedFields.json)),
    ("name", m.name.map .string),
    ("namespace", m.ns.map .string),
    ("ownerReferences", m.ownerReferences.map fun l => .array (l.map OwnerReference.json)),
    ("resourceVersion", m.resourceVersion.map .string),
    ("selfLink", m.selfLink.map .string),
    ("uid", m.uid.map .string)]

/-- Writes a secret. -/
def Secret.json (s : Secret) : Json :=
  objectOfPresent [
    ("apiVersion", some (.string apiVersion)),
    ("kind", some (.string Kind.secret.name)),
    ("data", s.data.map fun d =>
      .object (d.entries.map fun e => (e.1, .string (Base64.encode e.2)))),
    ("immutable", s.immutable.map .bool),
    ("metadata", some s.metadata.json),
    ("stringData", s.stringData.map textMapJson),
    ("type", s.type.map .string)]

end NodePki.Kube
