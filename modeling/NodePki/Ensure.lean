import NodePki.Authority
import NodePki.Secret.Name
import NodePki.Store.Basic

/-!
# Ensuring secrets

The two steps of a reconciliation: that the secret of a cluster's authority exists, and that of a
node. Each begins by reading. What exists is authoritative and never written again; what does not is
made and created, and who loses the race for the name reads what the winner created.
-/

namespace NodePki

open SecretStore (aside report)

/-- The secret of a name that is reported to exist. -/
def readWinner (ns name : String) : ExceptT Error Storing Kube.Secret := do
  match ← SecretStore.get ns name with
  | some winner => return winner
  | none => throw (.store (.unreadable ns name))

/-- The mention of the owner of a secret. -/
def ownerReference (owner : Kube.Owner) (secretName : String) :
    Except Error Kube.OwnerReference :=
  match owner.controllerReference? with
  | some reference => .ok reference
  | none => .error (.invalidOwner (.unidentified secretName))

/-- Ensures that the secret of a node exists. `issue` makes its key and certificate chain, and is
run only if there is no secret yet. -/
def ensureNodeSecret (owner : Kube.Owner) (id : NodeIdentity) (certificateType : String)
    (labels : Kube.TextMap) (issue : ExceptT Error (Program Surroundings) IssuedCertificate) :
    ExceptT Error Storing Kube.Secret := do
  SecretName.checkType certificateType
  let name := SecretName.node id.podName certificateType
  let fields := [("pod", id.podName), ("secret", name), ("namespace", id.ns)]
  match ← SecretStore.get id.ns name with
  | some existing =>
    report .secrets .debug "Node certificate secret already exists" fields
    existing.checkNode name certificateType
    return existing
  | none =>
    let reference ← ownerReference owner name
    let issued ← aside issue
    let secret :=
      Kube.Secret.ofNode name id.ns id.podName certificateType labels reference issued
    match ← SecretStore.create id.ns secret with
    | .created created =>
      report .secrets .info "Created node certificate secret"
        (fields ++ [("certificate_type", certificateType)])
      return created
    | .alreadyExists =>
      report .secrets .debug "Lost node certificate secret create race, reading winner" fields
      let winner ← readWinner id.ns name
      winner.checkNode name certificateType
      return winner

/-- The authority that a secret holds. -/
def authorityOfSecret (secret : Kube.Secret) (name : String) :
    Except Error CertificateAuthority := do
  let certificatePem ← secret.text name Entry.authorityCertificate
  let keyPem ← secret.text name Entry.authorityKey
  CertificateAuthority.ofPem certificatePem keyPem

/-- Ensures that the secret of a cluster's authority exists, and answers the authority. -/
def ensureAuthority (ns clusterName : String) (validity : Duration) :
    ExceptT Error Storing CertificateAuthority := do
  let name := SecretName.authority clusterName
  let fields := [("secret", name), ("namespace", ns)]
  match ← SecretStore.get ns name with
  | some existing =>
    report .secrets .debug "Loaded cluster CA secret" fields
    authorityOfSecret existing name
  | none =>
    let authority ← aside (CertificateAuthority.generate name validity)
    let secret :=
      Kube.Secret.ofAuthority name ns clusterName authority.certificatePem authority.keyPem
    match ← SecretStore.create ns secret with
    | .created _ =>
      report .secrets .info "Created cluster CA secret" fields
      return authority
    | .alreadyExists => authorityOfSecret (← readWinner ns name) name

end NodePki
