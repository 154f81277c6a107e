/-!
# Arithmetic modulo a number

Powers by repeated squaring, over the bits of the exponent from the highest.
-/

namespace NodePki.Modular

/-- The bits of a number, highest first. -/
def bits (n : Nat) : List Bool :=
  ((List.range (n.log2 + 1)).map fun i => n.testBit i).reverse

/-- A power modulo `m`. -/
def pow (m base exponent : Nat) : Nat :=
  (bits exponent).foldl
    (fun acc bit =>
      let square := acc * acc % m
      if bit then square * base % m else square)
    (1 % m)

/-- The inverse modulo a prime. -/
def inverse (p a : Nat) : Nat := pow p (a % p) (p - 2)

/-- A difference modulo `m`, of numbers below it. -/
def sub (m a b : Nat) : Nat := (a + (m - b)) % m

end NodePki.Modular
