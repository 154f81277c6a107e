import NodePki.Crypto.Modular
import NodePki.Crypto.Sha2

/-!
# Ed25519

Keys and signatures on the twisted curve `-x² + y² = 1 + d x² y²` over the field of `2^255 - 19`
elements, with four coordinates to a point.
-/

namespace NodePki.Ed25519

/-- The number of elements of the field. -/
def prime : Nat := Nat.pow 2 255 - 19

/-- The number of multiples of the base point. -/
def order : Nat := Nat.pow 2 252 + 27742317777372353535851937790883648493

/-- The constant of the curve. -/
def d : Nat := 37095705934669439343138083508754565189542113879843219016388785533085940283555

/-- A point of four coordinates. -/
structure Point where
  x : Nat
  y : Nat
  z : Nat
  t : Nat

/-- The neutral point. -/
def neutral : Point := ⟨0, 1, 1, 0⟩

/-- The base point. -/
def base : Point :=
  let x := 15112221349535400772501151409588531511454012693041857206046113283949847762202
  let y := 46316835694926478169428394003475163141307993866256225615783033603165251855960
  ⟨x, y, 1, x * y % prime⟩

/-- The sum of two points. -/
def add (a b : Point) : Point :=
  let p := prime
  let m := Modular.sub p a.y a.x * Modular.sub p b.y b.x % p
  let n := (a.y + a.x) * (b.y + b.x) % p
  let c := 2 * a.t * b.t % p * d % p
  let k := 2 * a.z * b.z % p
  let e := Modular.sub p n m
  let f := Modular.sub p k c
  let g := (k + c) % p
  let h := (n + m) % p
  ⟨e * f % p, g * h % p, f * g % p, e * h % p⟩

/-- A multiple of the base point. -/
def multiple (k : Nat) : Point :=
  (Modular.bits k).foldl
    (fun acc bit =>
      let twice := add acc acc
      if bit then add twice base else twice)
    neutral

/-- A point as octets: the second coordinate, least octet first, and the lowest bit of the first. -/
def pointOctets (a : Point) : Bytes :=
  let i := Modular.inverse prime a.z
  let x := a.x * i % prime
  let y := a.y * i % prime
  (Bytes.ofWidth 32 (y + x % 2 * Nat.pow 2 255)).reverse

/-- The number whose octets are given, least first. -/
def ofLittle (bs : Bytes) : Nat := Bytes.toNat bs.reverse

/-- The secret number of a seed: bits 3 to 253 of the first half of its digest, and bit 254. -/
def secret (seed : Bytes) : Nat :=
  let n := ofLittle ((Sha2.sha512.digest seed).take 32)
  n % Nat.pow 2 254 / 8 * 8 + Nat.pow 2 254

/-- The public key of a seed. -/
def publicKey (seed : Bytes) : Bytes := pointOctets (multiple (secret seed))

/-- The signature of a message. -/
def sign (seed message : Bytes) : Bytes :=
  let key := publicKey seed
  let nonce := ofLittle (Sha2.sha512.digest ((Sha2.sha512.digest seed).drop 32 ++ message)) % order
  let point := pointOctets (multiple nonce)
  let challenge := ofLittle (Sha2.sha512.digest (point ++ key ++ message)) % order
  point ++ (Bytes.ofWidth 32 ((nonce + challenge * secret seed) % order)).reverse

end NodePki.Ed25519
