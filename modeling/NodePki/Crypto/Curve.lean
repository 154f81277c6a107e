import NodePki.Crypto.Modular
import NodePki.Crypto.Sha2
import NodePki.Der.Oid

/-!
# The curves P-256 and P-384

Points of the two curves `y² = x³ - 3x + b`, as pairs of coordinates, and their multiples. The
arithmetic is on three coordinates, of which the last is zero for the point at infinity.
-/

namespace NodePki

/-- A curve. -/
inductive Curve
  | p256
  | p384
  deriving DecidableEq, Repr

namespace Curve

/-- The number of elements of the field, a prime. -/
def prime : Curve → Nat
  | p256 => 0xffffffff00000001000000000000000000000000ffffffffffffffffffffffff
  | p384 =>
    0xfffffffffffffffffffffffffffffffffffffffffffffffffffffffffffffffeffffffff0000000000000000ffffffff

/-- The number of points, a prime. -/
def order : Curve → Nat
  | p256 => 0xffffffff00000000ffffffffffffffffbce6faada7179e84f3b9cac2fc632551
  | p384 =>
    0xffffffffffffffffffffffffffffffffffffffffffffffffc7634d81f4372ddf581a0db248b0a77aecec196accc52973

/-- The point whose multiples are all points. -/
def base : Curve → Nat × Nat
  | p256 =>
    (0x6b17d1f2e12c4247f8bce6e563a440f277037d812deb33a0f4a13945d898c296,
      0x4fe342e2fe1a7f9b8ee7eb4a7c0f9e162bce33576b315ececbb6406837bf51f5)
  | p384 =>
    (0xaa87ca22be8b05378eb1c71ef320ad746e1d3b628ba79b9859f741e082542a385502f25dbf55296c3a545e3872760ab7,
      0x3617de4a96262c6f5d9e98bf9292dc29f8f41dbd289a147ce9da3113b5f0b8c00a60b1ce1d7e819d7a431d7c90ea0e5f)

/-- The number of octets of a coordinate. -/
def size : Curve → Nat
  | p256 => 32
  | p384 => 48

/-- The identifier of a curve. -/
def oid : Curve → Oid
  | p256 => ⟨[0x2a, 0x86, 0x48, 0xce, 0x3d, 0x03, 0x01, 0x07]⟩
  | p384 => ⟨[0x2b, 0x81, 0x04, 0x00, 0x22]⟩

/-- The digest that goes with a curve. -/
def digest : Curve → Bytes → Bytes
  | p256 => Sha2.sha256.digest
  | p384 => Sha2.sha384.digest

/-- The authentication code that goes with a curve. -/
def hmac : Curve → Bytes → Bytes → Bytes
  | p256 => Sha2.sha256.hmac
  | p384 => Sha2.sha384.hmac

/-- A point of three coordinates. -/
structure Point where
  x : Nat
  y : Nat
  z : Nat

/-- The point at infinity. -/
def infinity : Point := ⟨1, 1, 0⟩

/-- Twice a point. -/
def double (c : Curve) (a : Point) : Point :=
  let p := c.prime
  if a.z = 0 || a.y = 0 then infinity
  else
    let delta := a.z * a.z % p
    let gamma := a.y * a.y % p
    let beta := a.x * gamma % p
    let alpha := 3 * Modular.sub p a.x delta * (a.x + delta) % p
    let x := Modular.sub p (alpha * alpha % p) (8 * beta % p)
    let z := 2 * a.y * a.z % p
    let y := Modular.sub p (alpha * Modular.sub p (4 * beta % p) x % p) (8 * gamma * gamma % p)
    ⟨x, y, z⟩

/-- The sum of two points. -/
def add (c : Curve) (a b : Point) : Point :=
  let p := c.prime
  if a.z = 0 then b
  else if b.z = 0 then a
  else
    let aa := a.z * a.z % p
    let bb := b.z * b.z % p
    let u := a.x * bb % p
    let s := a.y * b.z % p * bb % p
    let h := Modular.sub p (b.x * aa % p) u
    let r := Modular.sub p (b.y * a.z % p * aa % p) s
    if h = 0 then if r = 0 then double c a else infinity
    else
      let hh := h * h % p
      let hhh := h * hh % p
      let v := u * hh % p
      let x := Modular.sub p (Modular.sub p (r * r % p) hhh) (2 * v % p)
      let y := Modular.sub p (r * Modular.sub p v x % p) (s * hhh % p)
      ⟨x, y, a.z * b.z % p * h % p⟩

/-- The two coordinates of a point other than the one at infinity. -/
def affine (c : Curve) (a : Point) : Nat × Nat :=
  let p := c.prime
  let i := Modular.inverse p a.z
  let ii := i * i % p
  (a.x * ii % p, a.y * ii % p * i % p)

/-- A multiple of the base point. -/
def multiple (c : Curve) (k : Nat) : Nat × Nat :=
  let g : Point := ⟨c.base.1, c.base.2, 1⟩
  affine c <|
    (Modular.bits k).foldl
      (fun acc bit =>
        let twice := double c acc
        if bit then add c twice g else twice)
      infinity

/-- A point as octets: a four and both coordinates. -/
def pointOctets (c : Curve) (point : Nat × Nat) : Bytes :=
  0x04 :: Bytes.ofWidth c.size point.1 ++ Bytes.ofWidth c.size point.2

/-- The public key of a secret number. -/
def publicKey (c : Curve) (secret : Nat) : Bytes := c.pointOctets (c.multiple secret)

end Curve

end NodePki
