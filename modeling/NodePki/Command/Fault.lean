import NodePki.Error

/-!
# Why a command failed

The failures of whole commands, each with what was being done when it arose and the causes behind
it.
-/

namespace NodePki

/-- Why a command failed. -/
inductive CommandFault
  | noClient
  | pod (ns name : String) (cause : Kube.Failure)
  | podNotReady (cause : Error)
  | services (selector : String) (cause : Kube.Failure)
  | service (cause : Error)
  | authority (cause : Error)
  | nodeSecret (cause : Error)
  | secret (cause : Error)
  | secretNotFound (ns name : String)
  | noCertificate (ns name : String) (cause : Error)
  deriving DecidableEq, Repr

/-- What was being done, and the causes behind the failure, outermost first. -/
def CommandFault.chain : CommandFault → List String
  | noClient => ["Failed to create Kubernetes client. Ensure kubeconfig is configured."]
  | pod ns name cause => s!"Failed to get pod {ns}/{name}" :: cause.chain
  | podNotReady cause => ["Pod is not ready for a node certificate", cause.message]
  | services selector cause => s!"Failed to list services with {selector}" :: cause.chain
  | service cause => ["Invalid cluster service", cause.message]
  | authority cause => ["Failed to load or create the cluster CA", cause.message]
  | nodeSecret cause => ["Failed to ensure node certificate secret", cause.message]
  | secret cause => [cause.message]
  | secretNotFound ns name => [s!"Secret {ns}/{name} not found"]
  | noCertificate ns name cause =>
    [s!"Secret {ns}/{name} does not hold a valid certificate", cause.message]

end NodePki
