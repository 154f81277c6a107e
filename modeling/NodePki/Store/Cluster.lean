import NodePki.Kube.Api
import NodePki.Store.Basic

/-!
# The cluster as a store

The store whose secrets are those of the cluster. An object that is not found is an absent secret,
and a conflict on creation means that there is one of that name; every other failure is an error of
the store.
-/

namespace NodePki.ClusterStore

/-- The description of such a store. -/
def description : String := "KubeSecretStore \x7b .. \x7d"

/-- What reading a secret came to. -/
def getOutcome (ns name : String) :
    Except Kube.Failure Kube.Secret → Except Error (Option Kube.Secret)
  | .ok secret => .ok (some secret)
  | .error (.refused status) =>
    if status.code = 404 then .ok none else .error (.store (.get ns name (.refused status)))
  | .error failure => .error (.store (.get ns name failure))

/-- What creating a secret came to. -/
def createOutcome (ns name : String) :
    Except Kube.Failure Kube.Secret → Except Error CreateOutcome
  | .ok secret => .ok (.created secret)
  | .error (.refused status) =>
    if status.code = 409 then .ok .alreadyExists
    else .error (.store (.create ns name (.refused status)))
  | .error failure => .error (.store (.create ns name failure))

/-- Reads a secret. -/
def get (ns name : String) : Kube.Calling (Except Error (Option Kube.Secret)) := do
  return getOutcome ns name (← Kube.getSecret ns name)

/-- Creates a secret. That there is one already is reported. -/
def create (ns : String) (secret : Kube.Secret) : Kube.Calling (Except Error CreateOutcome) := do
  let name := secret.metadata.name.getD ""
  let outcome := createOutcome ns name (← Kube.createSecret ns secret)
  match outcome with
  | .ok .alreadyExists =>
    Program.right <| Surroundings.report .store .debug "Secret already exists"
      [("namespace", ns), ("secret", name)]
    return outcome
  | _ => return outcome

/-- Answers the questions to a store by requests to the cluster. -/
def handle : (op : (SecretStore.sum Surroundings).Op) →
    Kube.Calling ((SecretStore.sum Surroundings).Answer op)
  | .inl (.get ns name) => get ns name
  | .inl (.create ns secret) => create ns secret
  | .inr op => .ask (.inr op) .done

/-- Runs a program with the cluster as its store. -/
def run {α : Type} (p : Storing α) : Kube.Calling α := p.interpret handle

end NodePki.ClusterStore
