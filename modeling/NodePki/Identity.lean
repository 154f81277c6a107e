import NodePki.Error
import NodePki.Kube.Object

/-!
# Node identities and service endpoints

What goes into a node's certificate: who the node is, and the services it answers for.
-/

namespace NodePki

/-- One member of a cluster. -/
structure NodeIdentity where
  podName : String
  podAddress : String
  clusterName : String
  ns : String
  deriving DecidableEq, Repr

namespace NodeIdentity

/-- The domain of canonical names. -/
def domain : String := "es.cluster.local"

/-- The name of a node among all clusters and namespaces. -/
def canonicalName (id : NodeIdentity) : String :=
  s!"{id.podName}.node.{id.clusterName}.{id.ns}.{domain}"

/-- The identity of a pod, which needs a name and an address. -/
def ofPod (pod : Kube.Pod) (clusterName ns : String) : Except Error NodeIdentity :=
  match pod.metadata.name with
  | none => .error (.invalidIdentity .podUnnamed)
  | some podName =>
    match pod.address.filter (· ≠ "") with
    | none => .error (.invalidIdentity (.podWithoutAddress podName))
    | some podAddress => .ok { podName, podAddress, clusterName, ns }

end NodeIdentity

/-- A service whose names and address a node answers for. -/
structure ServiceEndpoint where
  name : String
  ns : String
  address : Option String
  deriving DecidableEq, Repr

namespace ServiceEndpoint

/-- The domain of services. -/
def domain : String := "svc.cluster.local"

/-- Whether a text stands for an address: neither nothing nor the word `None`. -/
def isAddress (text : String) : Bool := text ≠ "" && text ≠ "None"

/-- An endpoint; a service may have no address. -/
def make (name ns : String) (address : Option String) : ServiceEndpoint :=
  ⟨name, ns, address.filter isAddress⟩

/-- The name of a service within the whole cluster. -/
def qualifiedName (s : ServiceEndpoint) : String := s!"{s.name}.{s.ns}.{domain}"

/-- The endpoint of a service, which needs a name. -/
def ofService (service : Kube.Service) (defaultNamespace : String) :
    Except Error ServiceEndpoint :=
  match service.metadata.name with
  | none => .error (.invalidIdentity .serviceUnnamed)
  | some name => .ok (make name (service.metadata.ns.getD defaultNamespace) service.address)

end ServiceEndpoint

end NodePki
