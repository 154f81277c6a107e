import NodePki.X509.Name
import NodePki.X509.Time

/-!
# Certificates

The parts of a certificate as the lenient reader finds them. Octets after the certificate, and after
the known parts of most containers, are passed over; the list of extensions alone must end where its
surroundings end.
-/

namespace NodePki.X509

/-- A kind of signature or key, with what it is given beyond its identifier. -/
structure Algorithm where
  oid : Oid
  parameters : Option Element
  deriving DecidableEq, Repr

/-- A public key: its kind, the unused bits and the octets. -/
structure PublicKeyInfo where
  algorithm : Algorithm
  unusedBits : UInt8
  key : Bytes
  deriving DecidableEq, Repr

/-- An extension of a certificate. -/
structure Extension where
  oid : Oid
  critical : Bool
  value : Bytes
  deriving DecidableEq, Repr

/-- A certificate. -/
structure Certificate where
  /-- The version less one. -/
  version : Nat
  /-- The serial number as it is written. -/
  serial : Bytes
  issuer : Name
  notBefore : Time
  notAfter : Time
  subject : Name
  publicKey : PublicKeyInfo
  extensions : List Extension
  signatureAlgorithm : Algorithm
  signature : Bytes
  deriving DecidableEq, Repr

/-- Reads a kind of signature or key. -/
def Algorithm.read : Reader Algorithm :=
  Element.sequence do
    let oid ← Element.primitive
    fun bs =>
      match Element.header bs with
      | none => some (⟨⟨oid⟩, none⟩, bs)
      | some _ => (Element.read bs).map fun (e, rest) => (⟨⟨oid⟩, some e⟩, rest)

/-- Reads a public key. -/
def PublicKeyInfo.read : Reader PublicKeyInfo :=
  Element.sequence do
    let algorithm ← Algorithm.read
    let (unusedBits, key) ← Element.bitString
    return ⟨algorithm, unusedBits, key⟩

namespace Extension

/-- Reads whether an extension is critical; the mark may be missing. -/
def readCritical : Reader Bool := fun bs =>
  match Element.expect Element.booleanNumber bs with
  | some (⟨_, false, _, [b]⟩, rest) => some (b != 0, rest)
  | _ => some (false, bs)

/-- Reads an extension. -/
def read : Reader Extension :=
  Element.sequence do
    let oid ← Element.primitive
    let critical ← readCritical
    let e ← Element.expect Element.octetStringNumber
    if e.constructed then fun _ => none else return ⟨⟨oid⟩, critical, e.content⟩

/-- Reads the extensions up to the end of their surroundings: nothing, or a wrapper with number 3,
whose own length does not matter, around a sequence of nothing but extensions. -/
def readList : Reader (List Extension) := fun bs =>
  if bs.isEmpty then some ([], [])
  else do
    let ((_, _, number, _), rest) ← Element.header bs
    if number ≠ 3 then none
    else
      let (e, rest) ← Element.expect Element.sequenceNumber rest
      if !rest.isEmpty then none
      else (Reader.all? read e.content).map (·, [])

end Extension

namespace Certificate

/-- The number of a content that is not negative, takes at most 32 bits and is written in its
shortest form. -/
def version? (content : Bytes) : Option Nat :=
  match content with
  | [] => none
  | [b] => if b < 0x80 then some b.toNat else none
  | b :: c :: _ =>
    if 0x80 ≤ b || (b = 0 && c < 0x80) then none
    else
      let n := Bytes.toNat content
      if n < UInt32.size then some n else none

/-- Reads the version, which may be missing. -/
def readVersion : Reader Nat := fun bs => do
  let (e, rest) ← Element.read bs
  if e.number ≠ 0 then return (0, bs)
  else if e.cls ≠ Element.contextClass then none
  else
    let inner ← Reader.within (Element.expect Element.integerNumber) e.content
    if inner.constructed then none else (version? inner.content).map (·, rest)

/-- Reads a unique identifier with the given number, which may be missing but not empty. -/
def readUniqueId (number : Nat) : Reader Unit := fun bs =>
  if bs.isEmpty then some ((), bs)
  else do
    let (e, rest) ← Element.read bs
    if e.cls = Element.contextClass && e.number = number then
      if e.content.isEmpty then none else return ((), rest)
    else return ((), bs)

/-- The part of a certificate that is signed, without its signature. -/
def readSigned : Reader (Algorithm → Bytes → Certificate) :=
  Element.sequence do
    let version ← readVersion
    let serial ← Element.readOpen
    if serial.number ≠ Element.integerNumber then fun _ => none
    let _ ← Algorithm.read
    let issuer ← Name.read
    let (notBefore, notAfter) ← Element.sequence do
      let notBefore ← Time.read
      let notAfter ← Time.read
      return (notBefore, notAfter)
    let subject ← Name.read
    let publicKey ← PublicKeyInfo.read
    readUniqueId 1
    readUniqueId 2
    let extensions ← Extension.readList
    return fun signatureAlgorithm signature =>
      { version, serial := serial.content, issuer, notBefore, notAfter, subject, publicKey,
        extensions, signatureAlgorithm, signature }

/-- Reads a certificate. -/
def read : Reader Certificate :=
  Element.sequence do
    let make ← readSigned
    let signatureAlgorithm ← Algorithm.read
    let (_, signature) ← Element.bitString
    return make signatureAlgorithm signature

/-- The certificate at the start of some octets. -/
def ofDer? (der : Bytes) : Option Certificate := Reader.within read der

/-- The extensions of a kind. -/
def extensionsOf (c : Certificate) (oid : Oid) : List Extension :=
  c.extensions.filter (·.oid = oid)

end Certificate

end NodePki.X509
