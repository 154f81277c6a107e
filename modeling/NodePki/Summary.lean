import NodePki.Encoding.Pem
import NodePki.Net.IpText
import NodePki.San.Reader
import NodePki.X509.AlternativeName

/-!
# Certificate summaries

What a stored certificate says: its subject, issuer and validity and the alternative names. Reading
refuses, in this order, what is no certificate, alternative names that the lenient reader cannot
make out, addresses of a wrong length, and other names that the strict reader refuses.
-/

namespace NodePki

/-- What a certificate says. -/
structure CertificateSummary where
  commonName : Option String
  issuer : String
  serial : String
  notBefore : X509.Time
  notAfter : X509.Time
  dnsNames : List String
  ipAddresses : List IpAddress
  otherNames : List OtherName
  deriving DecidableEq, Repr

namespace CertificateSummary

/-- The certificate at the start of some octets. -/
def readCertificate (der : Bytes) : Except Error X509.Certificate :=
  match X509.Certificate.ofDer? der with
  | some c => .ok c
  | none => .error (.parse .certificate)

/-- The other names of a certificate, by the strict reader, from its first extension with
alternative names. -/
def otherNamesOf (c : X509.Certificate) : Except Error (List OtherName) :=
  match c.extensionsOf .subjectAltName with
  | [] => .ok []
  | e :: _ => OtherName.readAll e.value

/-- The DNS names among the entries. -/
def dnsNamesOf (names : List X509.AlternativeName) : List String :=
  names.filterMap fun
    | .dnsName text => some text
    | _ => none

/-- The addresses among the entries, of four or sixteen octets each. -/
def ipAddressesOf : List X509.AlternativeName → Except Error (List IpAddress)
  | [] => .ok []
  | .ipAddress octets :: rest =>
    match IpAddress.ofOctets? octets with
    | some ip => (ipAddressesOf rest).map (ip :: ·)
    | none => .error (.parse (.addressOctets octets.length))
  | _ :: rest => ipAddressesOf rest

/-- The summary of a certificate. -/
def ofCertificate (c : X509.Certificate) : Except Error CertificateSummary := do
  let some names := c.alternativeNames? | throw (.parse .subjectAltName)
  let ipAddresses ← ipAddressesOf names
  let otherNames ← otherNamesOf c
  return {
    commonName := c.subject.commonName?
    issuer := c.issuer.text
    serial := Hex.encodeWith ":" c.serial
    notBefore := c.notBefore
    notAfter := c.notAfter
    dnsNames := dnsNamesOf names
    ipAddresses
    otherNames }

/-- The summary of the certificate at the start of some octets. -/
def ofDer (der : Bytes) : Except Error CertificateSummary := do
  ofCertificate (← readCertificate der)

/-- The summary of the first certificate of a bundle. -/
def ofPem (pem : Bytes) : Except Error CertificateSummary :=
  match Pem.firstContents pem with
  | some der => ofDer der
  | none => .error (.parse .pem)

end CertificateSummary

end NodePki
