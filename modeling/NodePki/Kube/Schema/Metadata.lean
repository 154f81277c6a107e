import NodePki.Kube.Schema.Basic

/-!
# Schemas of metadata and of references

What is known about every object, how objects are selected by their labels, and how they are named
elsewhere.
-/

namespace NodePki.Kube.Schema

/-- A mention of an owner. -/
def ownerReference : List (String × Schema) := [
  ("apiVersion", text), ("blockOwnerDeletion", flag), ("controller", flag), ("kind", text),
  ("name", text), ("uid", text)]

/-- Who keeps which members of an object. -/
def managedFields : List (String × Schema) := [
  ("apiVersion", text), ("fieldsType", text), ("fieldsV1", any), ("manager", text),
  ("operation", text), ("subresource", text), ("time", time)]

/-- What is known about an object. -/
def metadata : Schema := object [
  ("annotations", textMap), ("creationTimestamp", time), ("deletionGracePeriodSeconds", int64),
  ("deletionTimestamp", time), ("finalizers", texts), ("generateName", text),
  ("generation", int64), ("labels", textMap), ("managedFields", objects managedFields),
  ("name", text), ("namespace", text), ("ownerReferences", objects ownerReference),
  ("resourceVersion", text), ("selfLink", text), ("uid", text)]

/-- What is known about a list of objects. -/
def listMetadata : Schema := object [
  ("continue", text), ("remainingItemCount", int64), ("resourceVersion", text), ("selfLink", text)]

/-- A condition that labels or fields have to meet. -/
def requirement : List (String × Schema) := [("key", text), ("operator", text), ("values", texts)]

/-- A choice of objects by their labels. -/
def labelSelector : Schema := object [
  ("matchExpressions", objects requirement), ("matchLabels", textMap)]

/-- An object of the same namespace. -/
def localReference : Schema := object [("name", text)]

/-- A name with a value. -/
def namedValue : List (String × Schema) := [("name", text), ("value", text)]

/-- A condition that an object is in. -/
def condition : List (String × Schema) := [
  ("lastTransitionTime", time), ("message", text), ("observedGeneration", int64), ("reason", text),
  ("status", text), ("type", text)]

end NodePki.Kube.Schema
