import NodePki.Crypto.Curve
import NodePki.Der.Writer

/-!
# ECDSA

Signatures on the two curves. The nonce is drawn from the key and the message, so that one message
has one signature under one key.
-/

namespace NodePki.Ecdsa

/-- The state from which nonces are drawn: a key and a value. -/
structure Drawer where
  key : Bytes
  value : Bytes

/-- The state for a secret and the digest of a message. -/
def Drawer.start (c : Curve) (secret : Nat) (digest : Bytes) : Drawer :=
  let seed := Bytes.ofWidth c.size secret ++ Bytes.ofWidth c.size (Bytes.toNat digest % c.order)
  let value := List.replicate c.size 0x01
  let key := c.hmac (List.replicate c.size 0x00) (value ++ 0x00 :: seed)
  let value := c.hmac key value
  let key := c.hmac key (value ++ 0x01 :: seed)
  ⟨key, c.hmac key value⟩

/-- The state after a nonce that was of no use. -/
def Drawer.next (c : Curve) (d : Drawer) : Drawer :=
  let key := c.hmac d.key (d.value ++ [0x00])
  ⟨key, c.hmac key d.value⟩

/-- The two numbers of a signature with a given nonce, unless one of them is zero. -/
def withNonce? (c : Curve) (secret digest nonce : Nat) : Option (Nat × Nat) :=
  let n := c.order
  let r := (c.multiple nonce).1 % n
  let s := Modular.inverse n nonce * (digest + r * secret) % n
  if r = 0 || s = 0 then none else some (r, s)

/-- Draws nonces until one is of use, at most as often as the first argument says. -/
def search? (c : Curve) (secret digest : Nat) : Nat → Drawer → Option (Nat × Nat)
  | 0, _ => none
  | tries + 1, d =>
    let d : Drawer := ⟨d.key, c.hmac d.key d.value⟩
    let nonce := Bytes.toNat d.value
    if 1 ≤ nonce && nonce < c.order then
      match withNonce? c secret digest nonce with
      | some signature => some signature
      | none => search? c secret digest tries (d.next c)
    else search? c secret digest tries (d.next c)

/-- How often a nonce is drawn; that all of them are of no use is out of the question. -/
def maxTries : Nat := 64

/-- The signature of a message, as a sequence of two numbers. -/
def sign? (c : Curve) (secret : Nat) (message : Bytes) : Option Bytes := do
  let digest := c.digest message
  let (r, s) ← search? c secret (Bytes.toNat digest) maxTries (.start c secret digest)
  return Der.sequence [Der.natural r, Der.natural s]

end NodePki.Ecdsa
