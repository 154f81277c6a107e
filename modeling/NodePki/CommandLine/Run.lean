import NodePki.Command.Ensure
import NodePki.Command.Inspect
import NodePki.CommandLine.Invocation
import NodePki.Log.Filter

/-!
# Running the command line

From the environment and the arguments to what is printed and the code to exit with. That the program
starts is reported first; then come the faults of the arguments, and last those of the command.
-/

namespace NodePki.CommandLine

/-- How a run ends. -/
inductive Outcome
  /-- No command was run. -/
  | stopped (why : Stop)
  | failed (why : CommandFault)
  | finished (printed : List String)
  deriving DecidableEq, Repr

namespace Outcome

/-- The code to exit with. -/
def exitCode : Outcome → Nat
  | stopped why => if why.isHelp then 0 else 2
  | failed _ => 1
  | finished _ => 0

/-- What is printed as the result. -/
def output : Outcome → List String
  | stopped why => if why.isHelp then [why.message] else []
  | failed _ => []
  | finished printed => printed

/-- What is printed about a failure, outermost cause first. -/
def errors : Outcome → List String
  | stopped why => if why.isHelp then [] else [why.message]
  | failed why => why.chain
  | finished _ => []

end Outcome

/-- The version of the program. -/
def version : String := "0.1.0"

/-- Reports that the program starts. -/
def reportStart : Program Surroundings Unit :=
  Surroundings.report .program .info "Starting node-certs" [
    ("version", version), ("git_hash", "unknown"), ("built", "unknown")]

/-- The labels of a list in which the later of two with one key counts. -/
def labelMap (labels : List (String × String)) : Kube.TextMap := .ofList labels

/-- Runs a command. What is not said on the command line is as configured. -/
def Invocation.run (invocation : Invocation) (config : Config) :
    ExceptT CommandFault Kube.Calling (List String) :=
  let ns := invocation.ns.getD config.defaultNamespace
  match invocation.command with
  | .ensure pod cluster certificateType labels dryRun =>
    let request : EnsureRequest := {
      ns, pod, cluster, dryRun
      certificateType := certificateType.getD config.certificateType
      labels := labelMap labels }
    request.run config
  | .inspect name json =>
    let request : InspectRequest := { ns, name, json }
    request.run

/-- The variable that holds a wish for a filter of events. -/
def filterVariable : String := "RUST_LOG"

/-- The filter of the events that a run shows. -/
def filterOf (lookup : String → Option String) : Log.Filter :=
  .ofSettings (lookup filterVariable) (Config.ofEnvironment lookup).logLevel

/-- Runs a command that was read, if it is known how to reach the cluster. -/
def runRead (config : Config) (reachable : Bool) (invocation : Invocation) :
    Kube.Calling Outcome :=
  if reachable then
    (invocation.run config).run.bind fun result =>
      match result with
      | .ok printed => .done (.finished printed)
      | .error why => .done (.failed why)
  else .done (.failed .noClient)

/-- Runs the program in an environment, with arguments; `reachable` says whether it is known how to
reach the cluster. -/
def run (lookup : String → Option String) (arguments : List String) (reachable : Bool) :
    Kube.Calling Outcome :=
  reportStart.right.bind fun _ =>
    match Invocation.read arguments with
    | .error why => .done (.stopped why)
    | .ok invocation => runRead (Config.ofEnvironment lookup) reachable invocation

end NodePki.CommandLine
