import NodePki.Bytes

/-!
# Hexadecimal

Octets as pairs of hexadecimal digits, in both cases.
-/

namespace NodePki.Hex

/-- The digit of a number below sixteen, in lower case. -/
def digit (n : Nat) : Char :=
  if n < 10 then Char.ofNat (0x30 + n) else Char.ofNat (0x57 + n)

/-- The value of a hexadecimal digit of either case. -/
def value? (c : Char) : Option Nat :=
  if '0' ≤ c ∧ c ≤ '9' then some (c.toNat - 0x30)
  else if 'a' ≤ c ∧ c ≤ 'f' then some (c.toNat - 0x57)
  else if 'A' ≤ c ∧ c ≤ 'F' then some (c.toNat - 0x37)
  else none

/-- One octet as two lower-case digits. -/
def pair (b : UInt8) : List Char := [digit (b.toNat / 16), digit (b.toNat % 16)]

/-- Octets as lower-case digits. -/
def encode (bs : Bytes) : String := String.ofList (bs.flatMap pair)

/-- Octets as upper-case digits. -/
def encodeUpper (bs : Bytes) : String := String.ofList ((bs.flatMap pair).map Char.toUpper)

/-- Octets as lower-case pairs with `separator` between them. -/
def encodeWith (separator : String) (bs : Bytes) : String :=
  separator.intercalate (bs.map fun b => String.ofList (pair b))

/-- The digits of a number without leading zeros, in lower case. -/
def ofNat (n : Nat) : String := String.ofList ((Nat.toDigits 16 n))

/-- Reads pairs of digits. -/
def decodeChars : List Char → Option Bytes
  | [] => some []
  | [_] => none
  | a :: b :: rest => do
    let hi ← value? a
    let lo ← value? b
    let bs ← decodeChars rest
    return UInt8.ofNat (hi * 16 + lo) :: bs

/-- The octets that pairs of digits write; nothing for an odd digit or another character. -/
def decode (s : String) : Option Bytes := decodeChars s.toList

end NodePki.Hex
