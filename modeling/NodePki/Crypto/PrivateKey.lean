import NodePki.Crypto.Ecdsa
import NodePki.Crypto.Ed25519
import NodePki.Crypto.Rsa
import NodePki.Der.Reader
import NodePki.Encoding.Pem

/-!
# Private keys

The keys that authorities sign with, and the documents in which they are kept. A document holds a
version, the kind of key and the key itself; keys on curves bring their public key along, which has
to belong to them. A key that was read keeps its document.
-/

namespace NodePki

/-- A private key by its kind. -/
inductive SecretKey
  | ecdsa (curve : Curve) (secret : Nat)
  | ed25519 (seed : Bytes)
  | rsa (key : RsaKey)
  deriving DecidableEq, Repr

namespace SecretKey

/-- `id-ecPublicKey`, the kind of keys on curves. -/
def curveKeyOid : Oid := ⟨[0x2a, 0x86, 0x48, 0xce, 0x3d, 0x02, 0x01]⟩

/-- `id-Ed25519`, the kind of both keys and signatures. -/
def ed25519Oid : Oid := ⟨[0x2b, 0x65, 0x70]⟩

/-- `rsaEncryption`, the kind of keys. -/
def rsaKeyOid : Oid := ⟨[0x2a, 0x86, 0x48, 0x86, 0xf7, 0x0d, 0x01, 0x01, 0x01]⟩

/-- `sha256WithRSAEncryption`. -/
def rsaSignatureOid : Oid := ⟨[0x2a, 0x86, 0x48, 0x86, 0xf7, 0x0d, 0x01, 0x01, 0x0b]⟩

/-- The kind of signatures on a curve, with the digest that goes with the curve. -/
def curveSignatureOid : Curve → Oid
  | .p256 => ⟨[0x2a, 0x86, 0x48, 0xce, 0x3d, 0x04, 0x03, 0x02]⟩
  | .p384 => ⟨[0x2a, 0x86, 0x48, 0xce, 0x3d, 0x04, 0x03, 0x03]⟩

/-- The value without content. -/
def derNull : Bytes := Der.tlv .null []

/-- The content of the identifier of a kind of keys. -/
def keyAlgorithm : SecretKey → Bytes
  | ecdsa curve _ =>
    Der.objectIdentifier curveKeyOid.content ++ Der.objectIdentifier curve.oid.content
  | ed25519 _ => Der.objectIdentifier ed25519Oid.content
  | rsa _ => Der.objectIdentifier rsaKeyOid.content ++ derNull

/-- The identifier of the kind of signatures that a key makes. -/
def signatureAlgorithm : SecretKey → Bytes
  | ecdsa curve _ => Der.sequence [Der.objectIdentifier (curveSignatureOid curve).content]
  | ed25519 _ => Der.sequence [Der.objectIdentifier ed25519Oid.content]
  | rsa _ => Der.sequence [Der.objectIdentifier rsaSignatureOid.content, derNull]

/-- The name of the kind of signatures that a key makes. -/
def signatureName : SecretKey → String
  | ecdsa .p256 _ => "PKCS_ECDSA_P256_SHA256"
  | ecdsa .p384 _ => "PKCS_ECDSA_P384_SHA384"
  | ed25519 _ => "PKCS_ED25519"
  | rsa _ => "PKCS_RSA_SHA256"

/-- The octets of the public key. -/
def publicKey : SecretKey → Bytes
  | ecdsa curve secret => curve.publicKey secret
  | ed25519 seed => Ed25519.publicKey seed
  | rsa key => key.publicKey

/-- The signature of a message. -/
def sign? (message : Bytes) : SecretKey → Option Bytes
  | ecdsa curve secret => Ecdsa.sign? curve secret message
  | ed25519 seed => some (Ed25519.sign seed message)
  | rsa key => key.sign? message

end SecretKey

/-- A public key as it stands in a certificate: the content of its kind, and its octets. -/
structure PublicKey where
  algorithm : Bytes
  octets : Bytes
  deriving DecidableEq, Repr

/-- The public key with its kind. -/
def PublicKey.info (k : PublicKey) : Bytes :=
  Der.sequence [Der.sequence [k.algorithm], Der.bitString 0 k.octets]

/-- A private key with the document that it is kept in. -/
structure KeyPair where
  secret : SecretKey
  document : Bytes
  deriving DecidableEq, Repr

namespace KeyPair

/-- The public key. -/
def publicKey (k : KeyPair) : PublicKey := ⟨k.secret.keyAlgorithm, k.secret.publicKey⟩

/-- The document of a private key as text. -/
def pem (k : KeyPair) : String := (Pem.Block.mk "PRIVATE KEY" k.document).encode

/-! ## Making keys -/

/-- How many random octets a new key takes: enough more than the order that no secret number is
preferred. -/
def entropySize : Nat := 48

/-- A secret number from random octets, from one up to below the order of the curve. -/
def secretOfEntropy (c : Curve) (entropy : Bytes) : Nat := Bytes.toNat entropy % (c.order - 1) + 1

/-- The document of a secret number on a curve, with its public key. -/
def curveDocument (c : Curve) (secret : Nat) : Bytes :=
  Der.sequence [
    Der.natural 0,
    Der.sequence [(SecretKey.ecdsa c secret).keyAlgorithm],
    Der.octetString <| Der.sequence [
      Der.natural 1,
      Der.octetString (Bytes.ofWidth c.size secret),
      Der.tlv (.contextConstructed 1) (Der.bitString 0 (c.publicKey secret))]]

/-- The new key that random octets give. -/
def ofEntropy (entropy : Bytes) : KeyPair :=
  let secret := secretOfEntropy .p256 entropy
  ⟨.ecdsa .p256 secret, curveDocument .p256 secret⟩

/-! ## Reading keys -/

/-- Reads the content of a value with the given tag. -/
def expect (tag : Der.Tag) : Der.Reader Bytes := do
  let len ← Der.Reader.headerOf tag
  Der.Reader.take len

/-- Whether the next octet is the given tag. -/
def nextIs (tag : Der.Tag) : Der.Reader Bool := fun c =>
  .ok (c.rest.head? = some tag.octet, c)

/-- Reads the content of a value with the given tag, which may be missing. -/
def expectOptional (tag : Der.Tag) : Der.Reader (Option Bytes) := do
  if ← nextIs tag then return some (← expect tag) else return none

/-- Reads a whole content, without the reason of a refusal. -/
def readWhole {α : Type} (r : Der.Reader α) (content : Bytes) : Option α :=
  (Der.decode r content).toOption

/-- The octets of a string of bits without unused ones. -/
def wholeBits? : Bytes → Option Bytes
  | 0 :: octets => some octets
  | _ => none

/-- The number of an INTEGER that is positive and in its shortest form. -/
def positive? : Bytes → Option Nat
  | [] => none
  | [b] => if b = 0 || 0x80 ≤ b then none else some b.toNat
  | b :: c :: rest =>
    if 0x80 ≤ b || (b = 0 && c < 0x80) then none else some (Bytes.toNat (b :: c :: rest))

/-- What a document holds: the version, the content of the kind, the key, and the public key with
its tag if there is one after the attributes. -/
structure Document where
  version : Bytes
  algorithm : Bytes
  key : Bytes
  publicKey : Option (Der.Tag × Bytes)

/-- Reads a document; attributes are passed over. -/
def Document.read : Der.Reader Document := do
  let content ← expect .sequence
  match readWhole body content with
  | some d => return d
  | none => Der.Reader.fail (.length .sequence)
where
  /-- Reads the content of a document. -/
  body : Der.Reader Document := do
    let version ← expect .integer
    let algorithm ← expect .sequence
    let key ← expect .octetString
    let _ ← expectOptional (.contextConstructed 0)
    if ← Der.Reader.isFinished then return ⟨version, algorithm, key, none⟩
    else return ⟨version, algorithm, key, some (← Der.Reader.any)⟩

/-- The public key in a document of the second version, in either of two forms. -/
def publicKeyIn? : Der.Tag × Bytes → Option Bytes
  | (tag, content) =>
    if tag = .contextPrimitive 1 then wholeBits? content
    else if tag = .contextConstructed 1 then (readWhole (expect .bitString) content).bind wholeBits?
    else none

/-- The seed in a document, whose public key belongs to it if there is one. -/
def ed25519Of? (d : Document) : Option SecretKey := do
  let seed ← readWhole (expect .octetString) d.key
  if seed.length ≠ 32 || d.algorithm ≠ (SecretKey.ed25519 seed).keyAlgorithm then none
  else
    match d.version, d.publicKey with
    | [0], none => return .ed25519 seed
    | [1], some stated =>
      let key ← publicKeyIn? stated
      if key = Ed25519.publicKey seed then return .ed25519 seed else none
    | _, _ => none

/-- Reads the key of a curve: version, secret number, perhaps the curve, and the public key. -/
def readCurveKey : Der.Reader (Bytes × Bytes × Option Bytes × Bytes) := do
  let content ← expect .sequence
  match readWhole body content with
  | some parts => return parts
  | none => Der.Reader.fail (.length .sequence)
where
  /-- Reads the content of such a key. -/
  body : Der.Reader (Bytes × Bytes × Option Bytes × Bytes) := do
    let version ← expect .integer
    let secret ← expect .octetString
    let curve ← expectOptional (.contextConstructed 0)
    let publicKey ← expect (.contextConstructed 1)
    return (version, secret, curve, publicKey)

/-- The secret number in a document, which is in its range and whose public key belongs to it. -/
def ecdsaOf? (c : Curve) (d : Document) : Option SecretKey := do
  let (version, secret, curve, stated) ← readWhole readCurveKey d.key
  let bits ← readWhole (expect .bitString) stated
  let key ← wholeBits? bits
  let n := Bytes.toNat secret
  let curveAgrees := curve.all (· = Der.objectIdentifier c.oid.content)
  if d.version = [0] && d.publicKey.isNone && d.algorithm = (SecretKey.ecdsa c n).keyAlgorithm &&
      version = [1] && secret.length = c.size && 1 ≤ n && n < c.order && curveAgrees &&
      key = c.publicKey n then
    return .ecdsa c n
  else none

/-- Reads the parts of a key: version and eight numbers. -/
def readRsaKey : Der.Reader (Bytes × List Bytes) := do
  let content ← expect .sequence
  match readWhole body content with
  | some parts => return parts
  | none => Der.Reader.fail (.length .sequence)
where
  /-- Reads the content of such a key. -/
  body : Der.Reader (Bytes × List Bytes) := do
    let version ← expect .integer
    let numbers ← (List.range 8).mapM fun _ => expect .integer
    return (version, numbers)

/-- The key in a document, whose parts fit together. -/
def rsaOf? (d : Document) : Option SecretKey := do
  let (version, numbers) ← readWhole readRsaKey d.key
  let numbers ← numbers.mapM positive?
  match numbers with
  | [modulus, publicExponent, privateExponent, prime1, prime2, exponent1, exponent2, coefficient] =>
    let key : RsaKey := { modulus, publicExponent, privateExponent, prime1, prime2, exponent1,
                          exponent2, coefficient }
    if d.version = [0] && d.publicKey.isNone && d.algorithm = (SecretKey.rsa key).keyAlgorithm &&
        version = [0] && key.isConsistent then
      return .rsa key
    else none
  | _ => none

/-- The key in a document. -/
def ofDocument? (document : Bytes) : Option KeyPair := do
  let d ← readWhole Document.read document
  let secret ←
    match ed25519Of? d with
    | some key => some key
    | none =>
      match ecdsaOf? .p256 d with
      | some key => some key
      | none =>
        match ecdsaOf? .p384 d with
        | some key => some key
        | none => rsaOf? d
  return ⟨secret, document⟩

end KeyPair

end NodePki
