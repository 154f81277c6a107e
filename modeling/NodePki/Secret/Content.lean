import NodePki.Error
import NodePki.Kube.Object

/-!
# What secrets hold

The entries and labels of the secrets of nodes and authorities.
-/

namespace NodePki

namespace Label

/-- The label with the certificate type of a node's secret. -/
def certificateType : String := "nodecerts.k8s.node-certs.io/node-certificate-type"

/-- The label with the pod of a node's secret. -/
def associatedPod : String := "nodecerts.k8s.node-certs.io/associated-pod"

/-- The label with the cluster, of services and of an authority's secret. -/
def clusterName : String := "nodecerts.k8s.node-certs.io/cluster-name"

/-- The labels of a node's secret. The type and the pod win over labels of the caller. -/
def ofNode (podName certificateType : String) (extra : Kube.TextMap) : Kube.TextMap :=
  (extra.insert Label.certificateType certificateType).insert associatedPod podName

end Label

namespace Entry

/-- The entry with the private key of a node. -/
def nodeKey : String := "node.key"

/-- The entry with the certificate chain of a node, its own certificate first. -/
def nodeChain : String := "cert.pem"

/-- The entry with the certificate of an authority. -/
def authorityCertificate : String := "ca.crt"

/-- The entry with the private key of an authority. -/
def authorityKey : String := "ca.key"

end Entry

/-- The private key and certificate chain of a node. -/
structure IssuedCertificate where
  privateKeyPem : String
  certificateChainPem : String
  deriving DecidableEq, Repr

/-- A description that does not give the key away. -/
def IssuedCertificate.description (c : IssuedCertificate) : String :=
  "IssuedCertificate \x7b private_key_pem: \"<redacted>\", " ++
  s!"certificate_chain_pem: {Quoted.quote c.certificateChainPem}" ++ " \x7d"

namespace Kube.Secret

/-- The secret of a node. -/
def ofNode (name ns podName certificateType : String) (extra : TextMap) (owner : OwnerReference)
    (issued : IssuedCertificate) : Secret where
  metadata :=
    { name := some name
      ns := some ns
      labels := some (Label.ofNode podName certificateType extra)
      ownerReferences := some [owner] }
  data := some <| Dict.ofList [
    (Entry.nodeKey, Utf8.encode issued.privateKeyPem),
    (Entry.nodeChain, Utf8.encode issued.certificateChainPem)]

/-- The secret of an authority. -/
def ofAuthority (name ns clusterName certificatePem keyPem : String) : Secret where
  metadata :=
    { name := some name
      ns := some ns
      labels := some (Dict.ofList [(Label.clusterName, clusterName)]) }
  data := some <| Dict.ofList [
    (Entry.authorityCertificate, Utf8.encode certificatePem),
    (Entry.authorityKey, Utf8.encode keyPem)]

/-- The text under a name; `name` is what to call the secret in messages. -/
def text (s : Secret) (name key : String) : Except Error String :=
  match s.octets? key with
  | none => .error (.store (.noEntry name key))
  | some octets =>
    match Utf8.decode octets with
    | .ok text => .ok text
    | .error cause => .error (.store (.notUtf8 name key cause))

/-- Checks a secret found where a node's was expected: a type that it names is the expected one, and
it holds the key and the chain or neither. -/
def checkNode (s : Secret) (name certificateType : String) : Except Error Unit :=
  let typeAgrees := (s.metadata.label? Label.certificateType).all (· = certificateType)
  if typeAgrees then
    if (s.octets? Entry.nodeKey).isSome = (s.octets? Entry.nodeChain).isSome then .ok ()
    else .error (.store (.incomplete name Entry.nodeKey Entry.nodeChain))
  else
    .error (.store (.typeMismatch name
      ((s.metadata.label? Label.certificateType).getD "") certificateType))

end Kube.Secret

end NodePki
