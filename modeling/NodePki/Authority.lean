import NodePki.Error
import NodePki.Program.Surroundings
import NodePki.Secret.Content
import NodePki.Template
import NodePki.X509.Renewal

/-!
# Certificate authorities

An authority signs the templates of a cluster's nodes. It is made with a key and a certificate of
its own, or loaded from both as text; a loaded one keeps the text of its certificate, which goes
into the chains it issues, and takes from the certificate nothing but the subject. Its key is tried
on the certificate, which it signs again; whether key and certificate belong together is not looked at.
-/

namespace NodePki

/-- An authority: the name it signs under, its key, and its certificate as text. -/
structure CertificateAuthority where
  issuer : X509.DistinguishedName
  key : KeyPair
  certificatePem : String
  deriving DecidableEq, Repr

/-- A signed certificate, as octets and as text. -/
structure SignedCertificate where
  der : Bytes
  pem : String
  deriving DecidableEq, Repr

namespace SignedCertificate

/-- A certificate with its text. -/
def ofDer (der : Bytes) : SignedCertificate := ⟨der, (Pem.Block.mk "CERTIFICATE" der).encode⟩

end SignedCertificate

namespace CertificateAuthority

/-- A description that does not give the key away. -/
def description (a : CertificateAuthority) : String :=
  "CertificateAuthority \x7b signing_algorithm: " ++ a.key.secret.signatureName ++ ", .. \x7d"

/-- The text of the key. -/
def keyPem (a : CertificateAuthority) : String := a.key.pem

/-- How many random octets a serial number takes. -/
def serialSize : Nat := 16

/-- A serial number from random octets: positive, and without a zero at the start. -/
def serialOf : Bytes → Bytes
  | [] => []
  | b :: bs => max (b &&& 0x7f) 1 :: bs

/-- An authority with a given key, which signs its own certificate. -/
def selfSigned (commonName : String) (validity : Duration) (key : KeyPair) (serial : Bytes)
    (now : Instant) : Except Error CertificateAuthority :=
  match Template.window? now validity with
  | none => .error (.signing (.validity validity))
  | some (notBefore, notAfter) =>
    let name := X509.DistinguishedName.ofCommonName commonName
    let unsigned : X509.UnsignedCertificate :=
      { serial
        issuer := name
        notBefore
        notAfter
        subject := name
        publicKey := key.publicKey
        extensions := [
          .authorityKeyUsage, .subjectKeyIdentifier key.publicKey, .basicConstraints true] }
    match unsigned.sign? key.secret with
    | none => .error (.signing .signature)
    | some der => .ok ⟨name, key, (SignedCertificate.ofDer der).pem⟩

/-- Makes an authority with a new key. -/
def generate (commonName : String) (validity : Duration) :
    ExceptT Error (Program Surroundings) CertificateAuthority := do
  let entropy ← Surroundings.random KeyPair.entropySize
  let serial ← Surroundings.random serialSize
  let now ← Surroundings.now
  let authority ←
    selfSigned commonName validity (.ofEntropy entropy.toList) (serialOf serial.toList) now
  Surroundings.report .authority .debug "Generated self-signed certificate authority"
    [("common_name", commonName)]
  return authority

/-- Loads an authority from the texts of its certificate and its key, if this can sign the certificate
again. -/
def ofPem (certificatePem keyPem : String) : Except Error CertificateAuthority := do
  let some keyBlock := Pem.document? keyPem | throw (.signing .keyPem)
  let some key := KeyPair.ofDocument? keyBlock.contents | throw (.signing .key)
  let some block := Pem.document? certificatePem | throw (.signing .certificatePem)
  let some certificate := X509.Certificate.ofDer? block.contents | throw (.signing .certificate)
  if !certificate.isUsable then throw (.signing .certificate)
  let some issuer := X509.DistinguishedName.ofName? certificate.subject
    | throw (.signing .certificate)
  let some _ := (certificate.renewed issuer key.publicKey).sign? key.secret
    | throw (.signing .signature)
  return ⟨issuer, key, certificatePem⟩

/-- The certificate of a template, before it is signed. -/
def unsigned (a : CertificateAuthority) (serial : Bytes) (t : Template PublicKey) (key : PublicKey)
    (names : Bytes) : X509.UnsignedCertificate where
  serial
  issuer := a.issuer
  notBefore := t.notBefore
  notAfter := t.notAfter
  subject := .ofCommonName t.commonName
  publicKey := key
  extensions := [
    .nodeKeyUsage, .serverAndClient, .subjectKeyIdentifier key, .basicConstraints false,
    ⟨.subjectAltName, false, names⟩]

/-- Signs a template under a given serial number. -/
def signWith (a : CertificateAuthority) (serial : Bytes) (t : Template PublicKey) :
    Except Error SignedCertificate := do
  let some key := t.publicKey | throw (.signing .noPublicKey)
  let names ← GeneralName.encodeAll t.generalNames
  match (a.unsigned serial t key names).sign? a.key.secret with
  | some der => return .ofDer der
  | none => throw (.signing .signature)

/-- Signs a template. -/
def sign (a : CertificateAuthority) (t : Template PublicKey) :
    ExceptT Error (Program Surroundings) SignedCertificate := do
  let serial ← Surroundings.random serialSize
  let signed ← a.signWith (serialOf serial.toList) t
  Surroundings.report .authority .debug "Signed node certificate" [
    ("common_name", t.commonName),
    ("dns_names", toString t.dnsNames.length),
    ("ip_addresses", toString t.ipAddresses.length)]
  return signed

/-- A text that ends with a line feed. -/
def withNewline (text : String) : String :=
  if text.toList.getLast? = some '\n' then text else text ++ "\n"

/-- Issues a certificate: makes a key, builds the template of a node and signs it. The chain is the
certificate of the node, then that of the authority. -/
def issue (a : CertificateAuthority) (id : NodeIdentity) (services : List ServiceEndpoint)
    (validity : Duration) : ExceptT Error (Program Surroundings) IssuedCertificate := do
  let entropy ← Surroundings.random KeyPair.entropySize
  let key := KeyPair.ofEntropy entropy.toList
  let now ← Surroundings.now
  let template ← Template.build now id services (some key.publicKey) validity
  let signed ← a.sign template
  return ⟨key.pem, withNewline signed.pem ++ a.certificatePem⟩

end CertificateAuthority

end NodePki
