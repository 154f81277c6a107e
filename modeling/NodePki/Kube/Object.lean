import NodePki.Bytes
import NodePki.Data.Dict
import NodePki.Json.Basic
import NodePki.Time.Timestamp

/-!
# Cluster objects

The objects of the cluster that the program reads and writes, with the parts that matter to it and
the parts of a secret that have to survive being read and handed on.
-/

namespace NodePki.Kube

/-- Names with text values. -/
abbrev TextMap := Dict String String

/-- A mention of the object that another one belongs to. -/
structure OwnerReference where
  apiVersion : String
  kind : String
  name : String
  uid : String
  controller : Option Bool := none
  blockOwnerDeletion : Option Bool := none
  deriving DecidableEq, Repr

/-- Who keeps which members of an object, and since when. -/
structure ManagedFields where
  apiVersion : Option String := none
  fieldsType : Option String := none
  /-- The members, in a form that the kind of fields says. -/
  fields : Option Json := none
  manager : Option String := none
  operation : Option String := none
  subresource : Option String := none
  time : Option Timestamp := none
  deriving DecidableEq, Repr

/-- What is known about every object. -/
structure Metadata where
  name : Option String := none
  generateName : Option String := none
  ns : Option String := none
  uid : Option String := none
  resourceVersion : Option String := none
  selfLink : Option String := none
  generation : Option Int := none
  creationTimestamp : Option Timestamp := none
  deletionTimestamp : Option Timestamp := none
  deletionGraceSeconds : Option Int := none
  labels : Option TextMap := none
  annotations : Option TextMap := none
  ownerReferences : Option (List OwnerReference) := none
  finalizers : Option (List String) := none
  managedFields : Option (List ManagedFields) := none
  deriving DecidableEq, Repr, Inhabited

/-- The value of a label. -/
def Metadata.label? (m : Metadata) (key : String) : Option String := m.labels.bind (·.get? key)

/-- A pod: its metadata and the address it was given. -/
structure Pod where
  metadata : Metadata := {}
  address : Option String := none
  deriving DecidableEq, Repr

/-- A service: its metadata and the address it answers at. -/
structure Service where
  metadata : Metadata := {}
  address : Option String := none
  deriving DecidableEq, Repr

/-- A secret: octets under names. -/
structure Secret where
  metadata : Metadata := {}
  data : Option (Dict String Bytes) := none
  stringData : Option TextMap := none
  type : Option String := none
  immutable : Option Bool := none
  deriving DecidableEq, Repr, Inhabited

/-- The octets under a name. -/
def Secret.octets? (s : Secret) (key : String) : Option Bytes := s.data.bind (·.get? key)

/-- The kinds of objects. -/
inductive Kind
  | pod
  | service
  | secret
  deriving DecidableEq, Repr

/-- The name of a kind in objects. -/
def Kind.name : Kind → String
  | pod => "Pod"
  | service => "Service"
  | secret => "Secret"

/-- The name of a kind in the addresses of requests. -/
def Kind.plural : Kind → String
  | pod => "pods"
  | service => "services"
  | secret => "secrets"

/-- The version of the kinds. -/
def apiVersion : String := "v1"

/-- What an object is: of some kind, in a version of the interface that has this kind. -/
structure ObjectType where
  apiVersion : String
  kind : String
  deriving DecidableEq, Repr

/-- The objects of a kind. -/
def Kind.objects (k : Kind) : ObjectType := ⟨apiVersion, k.name⟩

instance : Coe Kind ObjectType := ⟨Kind.objects⟩

/-- An object that can own secrets, whatever it is. -/
structure Owner where
  type : ObjectType
  metadata : Metadata
  deriving DecidableEq, Repr

/-- The mention of an owner that manages what it owns; it takes a name and a uid. -/
def Owner.controllerReference? (o : Owner) : Option OwnerReference := do
  let name ← o.metadata.name
  let uid ← o.metadata.uid
  return { apiVersion := o.type.apiVersion, kind := o.type.kind, name, uid, controller := some true }

end NodePki.Kube
