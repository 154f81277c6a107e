import NodePki.Command.Fault
import NodePki.Config
import NodePki.Ensure
import NodePki.Retry
import NodePki.Store.Cluster
import NodePki.Store.Memory

/-!
# The ensure command

Reads a pod and the services of its cluster, then ensures the secret of the cluster's authority and
that of the node, each as often as the retry policy allows. A dry run keeps both secrets in memory
and asks nothing about secrets of the cluster.
-/

namespace NodePki

/-- What the ensure command is asked for. -/
structure EnsureRequest where
  ns : String
  pod : String
  cluster : String
  certificateType : String
  labels : Kube.TextMap := .empty
  dryRun : Bool := false
  deriving DecidableEq, Repr

namespace EnsureRequest

/-- The label that the services of the cluster have. -/
def selector (r : EnsureRequest) : String := s!"{Label.clusterName}={r.cluster}"

/-- Gives the failures of a part of a command their place. -/
def during {σ : Signature} {ε α : Type} (place : ε → CommandFault)
    (p : Program σ (Except ε α)) : ExceptT CommandFault (Program σ) α :=
  p.bind fun result => .done (result.mapError place)

/-- Gives the failure of a check its place. -/
def checked {σ : Signature} {ε α : Type} (place : ε → CommandFault) (result : Except ε α) :
    ExceptT CommandFault (Program σ) α :=
  .done (result.mapError place)

/-- How often the steps are tried. -/
def policy (config : Config) : RetryPolicy :=
  { timeout := config.retryTimeout, interval := config.retryInterval }

/-- Ensures both secrets, and answers that of the node. -/
def ensureSecrets (r : EnsureRequest) (config : Config) (pod : Kube.Pod) (id : NodeIdentity)
    (services : List ServiceEndpoint) : ExceptT CommandFault Storing Kube.Secret := do
  let authority ← during .authority <| (policy config).untilSuccess <|
    ensureAuthority r.ns r.cluster config.authorityValidity
  during .nodeSecret <| (policy config).untilSuccess <|
    ensureNodeSecret ⟨Kube.Kind.pod, pod.metadata⟩ id r.certificateType r.labels
      (authority.issue id services config.nodeValidity)

/-- Answers the questions to a store: from memory in a dry run, else by the cluster. -/
def withStore {α : Type} (r : EnsureRequest) (p : Storing α) : Kube.Calling α :=
  if r.dryRun then (MemoryStore.run p .empty).right.bind fun (a, _) => .done a
  else ClusterStore.run p

/-- Reports that the secret of a node is there. -/
def reportReady (r : EnsureRequest) (podName secretName : String) :
    ExceptT CommandFault Kube.Calling Unit :=
  let report := Surroundings.report .program .info "Node certificate secret ready" [
    ("pod", podName), ("secret", secretName), ("namespace", r.ns),
    ("dry_run", toString r.dryRun)]
  report.right.bind fun _ => .done (.ok ())

/-- Runs the command, and answers what it prints. -/
def run (r : EnsureRequest) (config : Config) :
    ExceptT CommandFault Kube.Calling (List String) := do
  let pod ← during (.pod r.ns r.pod) (Kube.getPod r.ns r.pod)
  let id ← checked .podNotReady (NodeIdentity.ofPod pod r.cluster r.ns)
  let services ← during (.services r.selector) (Kube.listServices r.ns r.selector)
  let endpoints ←
    checked .service (services.mapM fun service => ServiceEndpoint.ofService service r.ns)
  let secret ← r.withStore (r.ensureSecrets config pod id endpoints)
  let name := secret.metadata.name.getD ""
  r.reportReady id.podName name
  return [s!"{r.ns}/{name}"]

end EnsureRequest

end NodePki
