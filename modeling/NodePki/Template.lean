import NodePki.Identity
import NodePki.Net.IpText
import NodePki.San.GeneralName
import NodePki.Time.Instant

/-!
# Certificate templates

The unsigned, checked description of a node's certificate, made from the identity of the node, the
services it answers for and the key it is issued for. `build` checks, in this order: the fields of
the identity, the DNS names in their order, the address of the pod, those of the services, and the
end of the validity.
-/

namespace NodePki

/-- A certificate that is checked but not signed; `κ` is the type of public keys. -/
structure Template (κ : Type) where
  commonName : String
  dnsNames : List String
  ipAddresses : List IpAddress
  otherName : OtherName
  publicKey : Option κ
  notBefore : Instant
  notAfter : Instant
  deriving Repr

namespace Template

/-- How far clocks may differ: a certificate is valid from this long before it was made. -/
def clockSkew : Duration := .ofSeconds 300

/-- The names that a certificate holds, in the order in which it holds them. -/
def generalNames {κ : Type} (t : Template κ) : List GeneralName :=
  t.dnsNames.map .dnsName ++ t.ipAddresses.map .ipAddress ++ [.otherName t.otherName]

/-- Refuses an identity with an empty field. -/
def checkIdentity (id : NodeIdentity) : Except Error Unit :=
  if id.podName = "" then .error (.invalidIdentity (.empty .podName))
  else if id.clusterName = "" then .error (.invalidIdentity (.empty .clusterName))
  else if id.ns = "" then .error (.invalidIdentity (.empty .namespaceName))
  else .ok ()

/-- The DNS names of a node: its own, then two of each service. -/
def dnsNamesOf (id : NodeIdentity) (services : List ServiceEndpoint) : List String :=
  id.podName :: services.flatMap fun s => [s.name, s.qualifiedName]

/-- Refuses the first name that cannot be a DNS name. -/
def checkDnsNames (names : List String) : Except Error Unit :=
  match names.find? (!isDnsName ·) with
  | some name => .error (.invalidIdentity (.dnsName name))
  | none => .ok ()

/-- The normal form of the address that a text writes. -/
def readAddress (source : AddressSource) (text : String) : Except Error IpAddress :=
  match IpAddress.parse? text with
  | some ip => .ok ip.normalize
  | none => .error (.invalidIdentity (.address source text))

/-- The addresses of the services that have one. -/
def serviceAddresses : List ServiceEndpoint → Except Error (List IpAddress)
  | [] => .ok []
  | s :: rest =>
    match s.address with
    | none => serviceAddresses rest
    | some text => do
      let ip ← readAddress (.service s.name) text
      let ips ← serviceAddresses rest
      return ip :: ips

/-- The addresses of a node: its own, that of the host itself, then those of the services. -/
def addressesOf (id : NodeIdentity) (services : List ServiceEndpoint) :
    Except Error (List IpAddress) := do
  let own ← readAddress .pod id.podAddress
  let others ← serviceAddresses services
  return own :: IpAddress.localhost :: others

/-- When a certificate made at `now` begins and ends to be valid. -/
def window? (now : Instant) (validity : Duration) : Option (Instant × Instant) :=
  (now.add? validity).map (now.sub clockSkew, ·)

/-- Checks the identity, the services and the validity, and puts the template together. -/
def build {κ : Type} (now : Instant) (id : NodeIdentity) (services : List ServiceEndpoint)
    (publicKey : Option κ) (validity : Duration) : Except Error (Template κ) := do
  checkIdentity id
  let dnsNames := dnsNamesOf id services
  checkDnsNames dnsNames
  let ipAddresses ← addressesOf id services
  match window? now validity with
  | none => .error (.invalidIdentity (.validity validity))
  | some (notBefore, notAfter) =>
    return {
      commonName := id.canonicalName
      dnsNames
      ipAddresses
      otherName := ⟨.commonName, id.canonicalName⟩
      publicKey
      notBefore
      notAfter }

end Template

end NodePki
