import NodePki.Crypto.PrivateKey
import NodePki.Time.Instant
import NodePki.X509.Certificate
import NodePki.X509.DistinguishedName

/-!
# Certificates to be signed

The parts of a certificate without its signature, and how it is written and signed.
-/

namespace NodePki.X509

/-- A certificate without its signature. -/
structure UnsignedCertificate where
  serial : Bytes
  issuer : DistinguishedName
  notBefore : Instant
  notAfter : Instant
  subject : DistinguishedName
  publicKey : PublicKey
  extensions : List Extension
  deriving DecidableEq, Repr

/-- The decimal digits of a number, as octets of ASCII, `width` of them. -/
def decimalOctets : (width n : Nat) → Bytes
  | 0, _ => []
  | width + 1, n => UInt8.ofNat (0x30 + n / Nat.pow 10 width % 10) :: decimalOctets width n

/-- Writes an instant to the second: with two digits of the year from 1950 to 2049, with four
otherwise. -/
def encodeTime (t : Instant) : Bytes :=
  let (date, hour, minute, second) := t.civil
  let year := date.year.toNat
  let rest := [date.month, date.day, hour, minute, second].flatMap (decimalOctets 2) ++ [0x5a]
  if 1950 ≤ date.year ∧ date.year < 2050 then
    Der.tlv .utcTime (decimalOctets 2 (year % 100) ++ rest)
  else Der.tlv .generalizedTime (decimalOctets 4 year ++ rest)

/-- Writes an extension. -/
def Extension.encode (e : Extension) : Bytes :=
  Der.sequence <|
    [Der.objectIdentifier e.oid.content] ++ (if e.critical then [Der.booleanTrue] else []) ++
      [Der.octetString e.value]

/-- Writes extensions in their wrapper, which is left out if there are none. -/
def Extension.encodeList (es : List Extension) : Bytes :=
  if es.isEmpty then []
  else Der.tlv (.contextConstructed 3) (Der.sequence (es.map encode))

namespace UnsignedCertificate

/-- Writes the part that is signed, with the kind of signature it is going to have. -/
def encode (signatureAlgorithm : Bytes) (c : UnsignedCertificate) : Bytes :=
  Der.sequence [
    Der.tlv (.contextConstructed 0) (Der.natural 2),
    Der.tlv .integer c.serial,
    signatureAlgorithm,
    c.issuer.encode,
    Der.sequence [encodeTime c.notBefore, encodeTime c.notAfter],
    c.subject.encode,
    c.publicKey.info,
    Extension.encodeList c.extensions]

/-- Signs a certificate and writes the whole. -/
def sign? (key : SecretKey) (c : UnsignedCertificate) : Option Bytes := do
  let body := c.encode key.signatureAlgorithm
  let signature ← key.sign? body
  return Der.sequence [body, key.signatureAlgorithm, Der.bitString 0 signature]

end UnsignedCertificate

namespace Extension

/-- `id-ce-keyUsage`. -/
def keyUsageOid : Oid := ⟨[0x55, 0x1d, 0x0f]⟩

/-- `id-ce-extKeyUsage`. -/
def extendedKeyUsageOid : Oid := ⟨[0x55, 0x1d, 0x25]⟩

/-- `id-ce-subjectKeyIdentifier`. -/
def subjectKeyIdentifierOid : Oid := ⟨[0x55, 0x1d, 0x0e]⟩

/-- `id-ce-basicConstraints`. -/
def basicConstraintsOid : Oid := ⟨[0x55, 0x1d, 0x13]⟩

/-- `id-ce-nameConstraints`. -/
def nameConstraintsOid : Oid := ⟨[0x55, 0x1d, 0x1e]⟩

/-- What a key may be used for, as bits from the highest, of which there are nine: eight of the first
octet and one of the second. -/
def keyUsage (first second : UInt8) : Extension :=
  ⟨keyUsageOid, true, Der.bitString 7 [first, second]⟩

/-- An authority's key signs certificates and lists of revoked ones, and makes signatures. -/
def authorityKeyUsage : Extension := keyUsage 0x86 0x00

/-- A node's key makes signatures and wraps keys. -/
def nodeKeyUsage : Extension := keyUsage 0xa0 0x00

/-- `id-kp-serverAuth`. -/
def serverAuthOid : Oid := ⟨[0x2b, 0x06, 0x01, 0x05, 0x05, 0x07, 0x03, 0x01]⟩

/-- `id-kp-clientAuth`. -/
def clientAuthOid : Oid := ⟨[0x2b, 0x06, 0x01, 0x05, 0x05, 0x07, 0x03, 0x02]⟩

/-- What a certificate is for. -/
def extendedKeyUsage (uses : List Oid) : Extension :=
  ⟨extendedKeyUsageOid, false, Der.sequence (uses.map fun oid => Der.objectIdentifier oid.content)⟩

/-- A node's certificate is for servers and for clients. -/
def serverAndClient : Extension := extendedKeyUsage [serverAuthOid, clientAuthOid]

/-- The octets by which a key is known. -/
def keyIdentifier (octets : Bytes) : Extension :=
  ⟨subjectKeyIdentifierOid, false, Der.octetString octets⟩

/-- The start of the digest of a public key. -/
def subjectKeyIdentifier (k : PublicKey) : Extension :=
  keyIdentifier ((Sha2.sha256.digest k.octets).take 20)

/-- Whether the subject is an authority, and how many more may follow below it if that is limited. -/
def constraints (isAuthority : Bool) (below : Option Nat) : Extension :=
  ⟨basicConstraintsOid, true,
    Der.sequence (Der.tlv .boolean [if isAuthority then 0xff else 0x00] ::
      (below.map Der.natural).toList)⟩

/-- Whether the subject is an authority. -/
def basicConstraints (isAuthority : Bool) : Extension := constraints isAuthority none

end Extension

end NodePki.X509
