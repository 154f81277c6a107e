import NodePki.Bytes

/-!
# SHA-2

The digests of the SHA-2 family over words of 32 and 64 bits. Both kinds of word share their
constants: the shorter ones are the upper halves of the longer.
-/

namespace NodePki.Sha2

/-- The first 64 bits after the point of the cube roots of the first 80 primes. -/
def cubeRoots : List (BitVec 64) := [
  0x428a2f98d728ae22, 0x7137449123ef65cd, 0xb5c0fbcfec4d3b2f, 0xe9b5dba58189dbbc,
  0x3956c25bf348b538, 0x59f111f1b605d019, 0x923f82a4af194f9b, 0xab1c5ed5da6d8118,
  0xd807aa98a3030242, 0x12835b0145706fbe, 0x243185be4ee4b28c, 0x550c7dc3d5ffb4e2,
  0x72be5d74f27b896f, 0x80deb1fe3b1696b1, 0x9bdc06a725c71235, 0xc19bf174cf692694,
  0xe49b69c19ef14ad2, 0xefbe4786384f25e3, 0x0fc19dc68b8cd5b5, 0x240ca1cc77ac9c65,
  0x2de92c6f592b0275, 0x4a7484aa6ea6e483, 0x5cb0a9dcbd41fbd4, 0x76f988da831153b5,
  0x983e5152ee66dfab, 0xa831c66d2db43210, 0xb00327c898fb213f, 0xbf597fc7beef0ee4,
  0xc6e00bf33da88fc2, 0xd5a79147930aa725, 0x06ca6351e003826f, 0x142929670a0e6e70,
  0x27b70a8546d22ffc, 0x2e1b21385c26c926, 0x4d2c6dfc5ac42aed, 0x53380d139d95b3df,
  0x650a73548baf63de, 0x766a0abb3c77b2a8, 0x81c2c92e47edaee6, 0x92722c851482353b,
  0xa2bfe8a14cf10364, 0xa81a664bbc423001, 0xc24b8b70d0f89791, 0xc76c51a30654be30,
  0xd192e819d6ef5218, 0xd69906245565a910, 0xf40e35855771202a, 0x106aa07032bbd1b8,
  0x19a4c116b8d2d0c8, 0x1e376c085141ab53, 0x2748774cdf8eeb99, 0x34b0bcb5e19b48a8,
  0x391c0cb3c5c95a63, 0x4ed8aa4ae3418acb, 0x5b9cca4f7763e373, 0x682e6ff3d6b2b8a3,
  0x748f82ee5defb2fc, 0x78a5636f43172f60, 0x84c87814a1f0ab72, 0x8cc702081a6439ec,
  0x90befffa23631e28, 0xa4506cebde82bde9, 0xbef9a3f7b2c67915, 0xc67178f2e372532b,
  0xca273eceea26619c, 0xd186b8c721c0c207, 0xeada7dd6cde0eb1e, 0xf57d4f7fee6ed178,
  0x06f067aa72176fba, 0x0a637dc5a2c898a6, 0x113f9804bef90dae, 0x1b710b35131c471b,
  0x28db77f523047d84, 0x32caab7b40c72493, 0x3c9ebe0a15c9bebc, 0x431d67c49c100d4c,
  0x4cc5d4becb3e42b6, 0x597f299cfc657e2a, 0x5fcb6fab3ad6faec, 0x6c44198c4a475817]

/-- The first 64 bits after the point of the square roots of the first eight primes. -/
def squareRoots : List (BitVec 64) := [
  0x6a09e667f3bcc908, 0xbb67ae8584caa73b, 0x3c6ef372fe94f82b, 0xa54ff53a5f1d36f1,
  0x510e527fade682d1, 0x9b05688c2b3e6c1f, 0x1f83d9abfb41bd6b, 0x5be0cd19137e2179]

/-- The first 64 bits after the point of the square roots of the next eight primes. -/
def nextSquareRoots : List (BitVec 64) := [
  0xcbbb9d5dc1059ed8, 0x629a292a367cd507, 0x9159015a3070dd17, 0x152fecd8f70e5939,
  0x67332667ffc00b31, 0x8eb44a8768581511, 0xdb0c2e0d64f98fa7, 0x47b5481dbefa4fa4]

/-- The upper half of a word. -/
def upperHalf (x : BitVec 64) : BitVec 32 := x.extractLsb' 32 32

/-- A function that mixes three turns of a word; the last may be a shift. -/
structure Mix where
  first : Nat
  second : Nat
  third : Nat
  shifts : Bool

/-- The mixed word. -/
def Mix.apply {w : Nat} (m : Mix) (x : BitVec w) : BitVec w :=
  x.rotateRight m.first ^^^ x.rotateRight m.second ^^^
    (if m.shifts then x >>> m.third else x.rotateRight m.third)

/-- One digest of the family. -/
structure Variant (w : Nat) where
  /-- The eight words before the first block. -/
  start : List (BitVec w)
  /-- One constant for each round. -/
  constants : List (BitVec w)
  mixA : Mix
  mixE : Mix
  expandEarly : Mix
  expandLate : Mix
  /-- The number of octets of the digest. -/
  size : Nat

/-- The digest of 32 octets over words of 32 bits. -/
def sha256 : Variant 32 where
  start := squareRoots.map upperHalf
  constants := (cubeRoots.take 64).map upperHalf
  mixA := ⟨2, 13, 22, false⟩
  mixE := ⟨6, 11, 25, false⟩
  expandEarly := ⟨7, 18, 3, true⟩
  expandLate := ⟨17, 19, 10, true⟩
  size := 32

/-- The digest of 64 octets. -/
def sha512 : Variant 64 where
  start := squareRoots
  constants := cubeRoots
  mixA := ⟨28, 34, 39, false⟩
  mixE := ⟨14, 18, 41, false⟩
  expandEarly := ⟨1, 8, 7, true⟩
  expandLate := ⟨19, 61, 6, true⟩
  size := 64

/-- The digest of 48 octets. -/
def sha384 : Variant 64 := { sha512 with start := nextSquareRoots, size := 48 }

variable {w : Nat}

/-- The number of octets of a block: sixteen words. -/
def blockSize (w : Nat) : Nat := w / 8 * 16

/-- One round on the eight words, with a constant and the first word of the window, and the window
for the next round. -/
def round (v : Variant w) (k : BitVec w) (state window : List (BitVec w)) :
    List (BitVec w) × List (BitVec w) :=
  match state, window with
  | [a, b, c, d, e, f, g, h], word :: rest =>
    let t := h + v.mixE.apply e + ((e &&& f) ^^^ (~~~e &&& g)) + k + word
    let s := v.mixA.apply a + ((a &&& b) ^^^ (a &&& c) ^^^ (b &&& c))
    let next := v.expandLate.apply (window.getD 14 0) + window.getD 9 0 +
      v.expandEarly.apply (window.getD 1 0) + word
    ([t + s, a, b, c, d + t, e, f, g], rest ++ [next])
  | _, _ => (state, window)

/-- All rounds, one for each constant. -/
def rounds (v : Variant w) : List (BitVec w) → List (BitVec w) → List (BitVec w) → List (BitVec w)
  | [], state, _ => state
  | k :: ks, state, window =>
    let (state, window) := round v k state window
    rounds v ks state window

/-- Takes in one block. -/
def absorb (v : Variant w) (state block : List (BitVec w)) : List (BitVec w) :=
  List.zipWith (· + ·) state (rounds v v.constants state block)

/-- Cuts octets into words; the first argument bounds their number. -/
def words (w : Nat) : Nat → Bytes → List (BitVec w)
  | 0, _ => []
  | _ + 1, [] => []
  | n + 1, bs => BitVec.ofNat w (Bytes.toNat (bs.take (w / 8))) :: words w n (bs.drop (w / 8))

/-- A message with a one bit, zeros up to the end of a block, and its length in bits. -/
def padded (w : Nat) (message : Bytes) : Bytes :=
  let field := w / 4
  let tail := (message.length + 1 + field) % blockSize w
  let zeros := if tail = 0 then 0 else blockSize w - tail
  message ++ 0x80 :: List.replicate zeros 0 ++ Bytes.ofWidth field (8 * message.length)

/-- Takes in blocks of sixteen words, at most as many as the first argument says. -/
def absorbAll (v : Variant w) : Nat → List (BitVec w) → List (BitVec w) → List (BitVec w)
  | 0, state, _ => state
  | _ + 1, state, [] => state
  | n + 1, state, ws => absorbAll v n (absorb v state (ws.take 16)) (ws.drop 16)

/-- The digest of a message. -/
def Variant.digest (v : Variant w) (message : Bytes) : Bytes :=
  let bs := padded w message
  let ws := words w bs.length bs
  let state := absorbAll v ws.length v.start ws
  (state.flatMap fun x => Bytes.ofWidth (w / 8) x.toNat).take v.size

/-- Octets put together octet by octet with one octet. -/
def xorAll (b : UInt8) (bs : Bytes) : Bytes := bs.map (· ^^^ b)

/-- The authentication code of a message under a key. -/
def Variant.hmac (v : Variant w) (key message : Bytes) : Bytes :=
  let key := if blockSize w < key.length then v.digest key else key
  let key := key ++ List.replicate (blockSize w - key.length) 0
  v.digest (xorAll 0x5c key ++ v.digest (xorAll 0x36 key ++ message))

end NodePki.Sha2
