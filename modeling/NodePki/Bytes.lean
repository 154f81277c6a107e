/-!
# Octet strings

Octets as lists, and the big-endian numbers they write.
-/

namespace NodePki

/-- A string of octets. -/
abbrev Bytes := List UInt8

namespace Bytes

/-- The number that the octets write, most significant first. -/
def toNat (bs : Bytes) : Nat :=
  bs.foldl (fun n b => n * 256 + b.toNat) 0

/-- The `width` low octets of a number, most significant first. -/
def ofWidth : (width n : Nat) → Bytes
  | 0, _ => []
  | width + 1, n => UInt8.ofNat (n / Nat.pow 256 width) :: ofWidth width n

/-- How many octets a number takes; zero takes one. -/
def width (n : Nat) : Nat := n.log2 / 8 + 1

/-- The octets of a number without leading zeros; zero is one octet. -/
def ofNat (n : Nat) : Bytes := ofWidth (width n) n

@[simp] theorem length_ofWidth (w n : Nat) : (ofWidth w n).length = w := by
  induction w with
  | zero => rfl
  | succ w ih => simp [ofWidth, ih]

@[simp] theorem toNat_nil : toNat [] = 0 := rfl

end Bytes

end NodePki
