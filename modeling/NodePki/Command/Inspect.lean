import NodePki.Command.Fault
import NodePki.Secret.Content
import NodePki.Store.Cluster
import NodePki.Summary

/-!
# The inspect command

Reads a secret of the cluster and prints what its certificate says, as lines of text or as JSON.
-/

namespace NodePki

namespace CertificateSummary

/-- A summary as lines of text. -/
def lines (s : CertificateSummary) : List String :=
  let name := s.commonName.getD "<none>"
  [s!"Subject CN: {name}",
    s!"Issuer:     {s.issuer}",
    s!"Serial:     {s.serial}",
    s!"Valid:      {s.notBefore.text} .. {s.notAfter.text}"] ++
  s.dnsNames.map (fun dns => s!"DNS:        {dns}") ++
  s.ipAddresses.map (fun ip => s!"IP:         {ip}") ++
  s.otherNames.map fun other => s!"OtherName:  {other.oid} = {other.value}"

/-- A summary as JSON. -/
def json (s : CertificateSummary) : Json := .object [
  ("common_name", s.commonName.elim .null .string),
  ("issuer", .string s.issuer),
  ("serial", .string s.serial),
  ("not_before", .string s.notBefore.text),
  ("not_after", .string s.notAfter.text),
  ("dns_names", .array (s.dnsNames.map .string)),
  ("ip_addresses", .array (s.ipAddresses.map fun ip => .string ip.text)),
  ("other_names", .array (s.otherNames.map fun other =>
    .object [("oid", .string other.oid.dotted), ("value", .string other.value)]))]

end CertificateSummary

/-- What the inspect command is asked for. -/
structure InspectRequest where
  ns : String
  name : String
  json : Bool := false
  deriving DecidableEq, Repr

namespace InspectRequest

/-- What is printed about the certificate in a secret. -/
def show? (r : InspectRequest) : Option Kube.Secret → Except CommandFault (List String)
  | none => .error (.secretNotFound r.ns r.name)
  | some secret => do
    let chain ← (secret.text r.name Entry.nodeChain).mapError .secret
    let summary ←
      (CertificateSummary.ofPem (Utf8.encode chain)).mapError (.noCertificate r.ns r.name)
    return if r.json then [summary.json.pretty] else summary.lines

/-- Runs the command, and answers what it prints. -/
def run (r : InspectRequest) : ExceptT CommandFault Kube.Calling (List String) :=
  (ClusterStore.get r.ns r.name).bind fun found =>
    .done <| do
      let secret ← found.mapError .secret
      r.show? secret

end InspectRequest

end NodePki
