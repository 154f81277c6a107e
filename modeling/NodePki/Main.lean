import NodePki.CommandLine.Run
import NodePki.Simulation.Server
import Std.Time.DateTime.Timestamp

/-!
# The program

Runs the command line on this machine. The cluster is the list of objects on standard input, as
`kubectl get pods,services,secrets --output json` writes it; secrets that are created go to standard
error, one JSON object to the line, from where `kubectl create` takes them.
-/

namespace NodePki.Main

/-- The variables of the environment that the program knows, with their values. -/
def environment : IO (List (String × String)) :=
  (CommandLine.filterVariable :: Config.variableNames).filterMapM fun name => do
    return (← IO.getEnv name).map fun value => (name, value)

/-- Answers what is asked of the machine; events are printed as far as a filter admits them. -/
def answer (filter : Log.Filter) : (op : Surroundings.Op) → IO (Surroundings.Answer op)
  | .report event => if filter.admits event then IO.println event.line else pure ()
  | .now => do
    let time ← Std.Time.Timestamp.now
    return ⟨time.toNanosecondsSinceUnixEpoch.val⟩
  | .uptime => do return ⟨← IO.monoNanosNow⟩
  | .sleep span => IO.sleep (min ((span.nanos + 999999) / 1000000) (UInt32.size - 1)).toUInt32
  | .random count => do
    let octets ← IO.getRandomBytes count.toUSize
    return Vector.ofFn fun i => octets.data.getD i.val 0

/-- Answers what is asked of the cluster and the machine. -/
def handle (filter : Log.Filter) (cluster : IO.Ref Kube.Server) :
    (op : (Kube.Api.sum Surroundings).Op) → IO ((Kube.Api.sum Surroundings).Answer op)
  | .inl request => cluster.modifyGet fun server =>
    let (response, server) := server.answer request
    (.ok response, server)
  | .inr op => answer filter op

/-- The cluster on standard input, which is read only if a command is going to be run. -/
def readCluster (arguments : List String) : IO (Option Kube.Server) :=
  match CommandLine.Invocation.read arguments with
  | .ok _ => do return Kube.Server.ofText? (← (← IO.getStdin).readToEnd)
  | .error _ => pure none

end NodePki.Main

open NodePki in
/-- Runs the program, and answers the code to exit with. -/
def main (arguments : List String) : IO UInt32 := do
  let environment ← Main.environment
  let lookup (name : String) : Option String := List.lookup name environment
  let given ← Main.readCluster arguments
  let cluster ← IO.mkRef (given.getD (.make [] [] [] []))
  let filter := CommandLine.filterOf lookup
  let program := CommandLine.run lookup arguments given.isSome
  let outcome ← program.interpret (Main.handle filter cluster)
  outcome.output.forM fun line => IO.println line
  outcome.errors.forM fun line => IO.eprintln line
  (← cluster.get).created.reverse.forM fun secret => IO.eprintln secret.compact
  return outcome.exitCode.toUInt32
