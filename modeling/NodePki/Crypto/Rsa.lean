import NodePki.Crypto.Modular
import NodePki.Crypto.Sha2
import NodePki.Der.Writer

/-!
# RSA

Private keys with all their parts, which keys are accepted, and signatures in the first version of
the padding. Not all that ties the parts of a key together is looked at before it signs, so a
signature is tried on the public key before it is given out.
-/

namespace NodePki

/-- A private key. -/
structure RsaKey where
  modulus : Nat
  publicExponent : Nat
  privateExponent : Nat
  prime1 : Nat
  prime2 : Nat
  exponent1 : Nat
  exponent2 : Nat
  coefficient : Nat
  deriving DecidableEq, Repr

namespace RsaKey

/-- The number of bits of a number. -/
def bitLength (n : Nat) : Nat := if n = 0 then 0 else n.log2 + 1

/-- The number of octets of the modulus. -/
def size (k : RsaKey) : Nat := Bytes.width k.modulus

/-- Whether the parts of a key have the sizes that are accepted and fit together, as far as that is
looked at: the modulus takes 256 to 512 octets, each prime half of its bits. -/
def isConsistent (k : RsaKey) : Bool :=
  let half := (bitLength k.modulus + 1) / 2
  256 ≤ k.size && k.size ≤ 512 && k.modulus % 2 = 1 &&
    k.publicExponent % 2 = 1 && 65537 ≤ k.publicExponent && k.publicExponent < Nat.pow 2 33 &&
    bitLength k.prime1 = half && bitLength k.prime2 = half && half % 512 = 0 &&
    k.prime1 % 2 = 1 && k.prime2 % 2 = 1 && k.prime1 * k.prime2 % k.modulus = 0 &&
    half < bitLength k.privateExponent && k.privateExponent < k.modulus &&
    k.privateExponent % 2 = 1 &&
    k.exponent1 % 2 = 1 && k.exponent1 < k.prime1 &&
    k.exponent2 % 2 = 1 && k.exponent2 < k.prime2 &&
    k.coefficient < k.prime1 && k.coefficient * k.prime2 % k.prime1 = 1

/-- The public key: modulus and public exponent. -/
def publicKey (k : RsaKey) : Bytes :=
  Der.sequence [Der.natural k.modulus, Der.natural k.publicExponent]

/-- What a digest is preceded by: the kind of digest and the length. -/
def digestStart : Bytes :=
  [0x30, 0x31, 0x30, 0x0d, 0x06, 0x09, 0x60, 0x86, 0x48, 0x01, 0x65, 0x03, 0x04, 0x02, 0x01, 0x05,
    0x00, 0x04, 0x20]

/-- The private operation, from its results modulo the two primes. -/
def apply (k : RsaKey) (n : Nat) : Nat :=
  let n1 := Modular.pow k.prime1 (n % k.prime1) k.exponent1
  let n2 := Modular.pow k.prime2 (n % k.prime2) k.exponent2
  let step := k.coefficient * Modular.sub k.prime1 n1 (n2 % k.prime1) % k.prime1
  (n2 + k.prime2 * step) % k.modulus

/-- The signature of a message, if the public key takes it back to what was signed. -/
def sign? (k : RsaKey) (message : Bytes) : Option Bytes :=
  let content := digestStart ++ Sha2.sha256.digest message
  let padding := List.replicate (k.size - content.length - 3) 0xff
  let padded := Bytes.toNat (0x00 :: 0x01 :: padding ++ 0x00 :: content)
  let signature := k.apply padded
  if Modular.pow k.modulus signature k.publicExponent = padded then
    some (Bytes.ofWidth k.size signature)
  else none

end RsaKey

end NodePki
