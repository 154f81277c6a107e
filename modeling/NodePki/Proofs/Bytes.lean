import Mathlib.Algebra.Group.Nat.Defs
import NodePki.Bytes

/-!
# Numbers of octets

The big-endian number that octets write:

* `toNat_append`: the octets in front count as many times more as there are octets behind;
* `toNat_lt`: a number of so many octets is less than the next power of 256;
* `toNat_ofWidth`: the octets of a number of a given width read back to it;
* `toNat_ofNat`, `ofNat_toNat_cons`: without leading zeros, a number has one form and a form one
  number.
-/

namespace NodePki.Bytes

theorem toNat_append (a b : Bytes) : toNat (a ++ b) = toNat a * 256 ^ b.length + toNat b := by
  suffices h : ∀ n, b.foldl (fun n b => n * 256 + b.toNat) n = n * 256 ^ b.length + toNat b by
    rw [toNat, List.foldl_append, h]; rfl
  induction b with
  | nil => simp [toNat]
  | cons x b ih =>
    intro n
    have h := ih x.toNat
    simp only [toNat, List.foldl_cons, List.length_cons, Nat.zero_mul, Nat.zero_add] at h ⊢
    rw [ih, h, Nat.add_mul, Nat.pow_succ, Nat.mul_assoc, Nat.mul_comm 256, Nat.add_assoc]
    rfl

theorem toNat_cons (x : UInt8) (b : Bytes) : toNat (x :: b) = x.toNat * 256 ^ b.length + toNat b :=
  by simpa [toNat] using toNat_append [x] b

theorem toNat_lt (b : Bytes) : toNat b < 256 ^ b.length := by
  induction b with
  | nil => simp
  | cons x b ih =>
    rw [toNat_cons, List.length_cons, Nat.pow_succ]
    have hx : x.toNat < 256 := x.toNat_lt
    have hm : (x.toNat + 1) * 256 ^ b.length ≤ 256 * 256 ^ b.length := Nat.mul_le_mul_right _ hx
    rw [Nat.add_mul, Nat.one_mul, Nat.mul_comm 256] at hm
    omega

theorem toNat_ofWidth (w n : Nat) : toNat (ofWidth w n) = n % 256 ^ w := by
  induction w with
  | zero => simp [ofWidth, Nat.mod_one]
  | succ w ih =>
    rw [ofWidth, toNat_cons, ih, length_ofWidth, Nat.pow_succ, Nat.mod_mul,
      UInt8.toNat_ofNat', Nat.mul_comm]
    simp [Nat.add_comm]

theorem ofWidth_toNat (bs : Bytes) : ofWidth bs.length (toNat bs) = bs := by
  have key : ∀ k (bs : Bytes), ofWidth bs.length (k * 256 ^ bs.length + toNat bs) = bs := by
    intro k bs
    induction bs generalizing k with
    | nil => rfl
    | cons x bs ih =>
      have hpos : 0 < 256 ^ bs.length := Nat.pow_pos (by decide)
      have hsplit : k * 256 ^ (bs.length + 1) + toNat (x :: bs) =
          (k * 256 + x.toNat) * 256 ^ bs.length + toNat bs := by
        rw [toNat_cons, Nat.pow_succ, Nat.add_mul, Nat.mul_comm (256 ^ bs.length), Nat.mul_assoc]
        omega
      have hdiv : ((k * 256 + x.toNat) * 256 ^ bs.length + toNat bs) / 256 ^ bs.length =
          k * 256 + x.toNat := by
        rw [Nat.mul_comm, Nat.mul_add_div hpos, Nat.div_eq_of_lt (toNat_lt bs), Nat.add_zero]
      have hx : UInt8.ofNat (k * 256 + x.toNat) = x := by
        apply UInt8.toNat_inj.1
        rw [UInt8.toNat_ofNat', Nat.mul_comm, Nat.mul_add_mod, Nat.mod_eq_of_lt x.toNat_lt]
      rw [List.length_cons, ofWidth, hsplit, Nat.pow_eq, hdiv, hx, ih]
  simpa using key 0 bs

/-- A number other than zero takes so many octets if it is between two powers of 256. -/
theorem width_eq_succ_iff {n k : Nat} (h : n ≠ 0) :
    width n = k + 1 ↔ 256 ^ k ≤ n ∧ n < 256 ^ (k + 1) := by
  have hpow : ∀ j, 256 ^ j = 2 ^ (8 * j) := fun j => by rw [Nat.pow_mul]
  rw [hpow, hpow, ← Nat.le_log2 h, ← Nat.log2_lt h, width]
  omega

theorem lt_pow_width (n : Nat) : n < 256 ^ width n := by
  by_cases h : n = 0
  · subst h; decide
  · exact ((width_eq_succ_iff h).1 rfl).2

theorem width_le {n k : Nat} (h : n < 256 ^ (k + 1)) : width n ≤ k + 1 := by
  by_cases hn : n = 0
  · subst hn
    exact Nat.le_add_left 1 k
  · have hle : 256 ^ (width n - 1) ≤ n := ((width_eq_succ_iff hn).1 (by rw [width]; omega)).1
    have := (Nat.pow_lt_pow_iff_right (by decide)).1 (Nat.lt_of_le_of_lt hle h)
    omega

@[simp] theorem length_ofNat (n : Nat) : (ofNat n).length = width n := length_ofWidth _ _

@[simp] theorem toNat_ofNat (n : Nat) : toNat (ofNat n) = n := by
  rw [ofNat, toNat_ofWidth, Nat.mod_eq_of_lt (lt_pow_width n)]

/-- Octets are as few as can be for their number if the first one is not zero. -/
theorem pow_le_toNat_cons_iff {x : UInt8} {b : Bytes} :
    256 ^ b.length ≤ toNat (x :: b) ↔ x ≠ 0 := by
  rw [toNat_cons]
  have hrest := toNat_lt b
  constructor
  · rintro hle rfl
    rw [UInt8.toNat_zero, Nat.zero_mul] at hle
    omega
  · intro hx
    have hpos : 0 < x.toNat := Nat.pos_of_ne_zero fun h => hx (UInt8.toNat_inj.1 h)
    exact Nat.le_add_right_of_le (Nat.le_mul_of_pos_left _ hpos)

theorem width_toNat_cons {x : UInt8} (hx : x ≠ 0) (b : Bytes) :
    width (toNat (x :: b)) = b.length + 1 := by
  have hle : 256 ^ b.length ≤ toNat (x :: b) := pow_le_toNat_cons_iff.2 hx
  refine (width_eq_succ_iff ?_).2 ⟨hle, toNat_lt (x :: b)⟩
  exact Nat.ne_of_gt (Nat.lt_of_lt_of_le (Nat.pow_pos (by decide)) hle)

theorem ofNat_toNat_cons {x : UInt8} (hx : x ≠ 0) (b : Bytes) : ofNat (toNat (x :: b)) = x :: b := by
  rw [ofNat, width_toNat_cons hx]
  exact ofWidth_toNat (x :: b)

/-- The first octet of a number other than zero is not zero. -/
theorem exists_ofNat_eq_cons {n : Nat} (h : n ≠ 0) : ∃ x b, ofNat n = x :: b ∧ x ≠ 0 := by
  obtain ⟨hle, hlt⟩ := (width_eq_succ_iff h).1 rfl
  refine ⟨_, _, rfl, fun hx => ?_⟩
  have := congrArg UInt8.toNat hx
  rw [Nat.pow_eq, UInt8.toNat_ofNat', Nat.mod_eq_of_lt] at this
  · exact absurd (Nat.div_pos hle (Nat.pow_pos (by decide))) (by rw [this]; decide)
  · exact (Nat.div_lt_iff_lt_mul (Nat.pow_pos (by decide))).2 (by rwa [← Nat.pow_succ'])

end NodePki.Bytes
