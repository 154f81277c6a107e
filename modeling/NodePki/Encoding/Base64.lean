import NodePki.Bytes

/-!
# Base64

The standard alphabet with padding. Reading is strict: only whole groups of four characters, and
the bits that a padded group leaves over are zero, so each octet string has one written form.
-/

namespace NodePki.Base64

/-- The character of a six-bit number. -/
def symbol (n : Nat) : Char :=
  if n < 26 then Char.ofNat (0x41 + n)
  else if n < 52 then Char.ofNat (0x61 + (n - 26))
  else if n < 62 then Char.ofNat (0x30 + (n - 52))
  else if n = 62 then '+'
  else '/'

/-- The six-bit number of a character. -/
def value? (c : Char) : Option Nat :=
  let n := c.toNat
  if 0x41 ≤ n ∧ n ≤ 0x5a then some (n - 0x41)
  else if 0x61 ≤ n ∧ n ≤ 0x7a then some (n - 0x61 + 26)
  else if 0x30 ≤ n ∧ n ≤ 0x39 then some (n - 0x30 + 52)
  else if c = '+' then some 62
  else if c = '/' then some 63
  else none

/-- Three octets as four characters, fewer with padding. -/
def encodeChars : Bytes → List Char
  | [] => []
  | [a] =>
    let n := a.toNat * 16
    [symbol (n / 64), symbol (n % 64), '=', '=']
  | [a, b] =>
    let n := (a.toNat * 256 + b.toNat) * 4
    [symbol (n / 4096), symbol (n / 64 % 64), symbol (n % 64), '=']
  | a :: b :: c :: rest =>
    let n := (a.toNat * 256 + b.toNat) * 256 + c.toNat
    symbol (n / 262144) :: symbol (n / 4096 % 64) :: symbol (n / 64 % 64) :: symbol (n % 64) ::
      encodeChars rest

/-- The octets in base64. -/
def encode (bs : Bytes) : String := String.ofList (encodeChars bs)

/-- The octets of one group: three, or fewer if it is padded. -/
def group? (a b c d : Char) : Option Bytes := do
  let a ← value? a
  let b ← value? b
  if c = '=' ∧ d = '=' then
    if b % 16 = 0 then some [UInt8.ofNat (a * 4 + b / 16)] else none
  else
    let c ← value? c
    if d = '=' then
      if c % 4 = 0 then
        some [UInt8.ofNat (a * 4 + b / 16), UInt8.ofNat (b % 16 * 16 + c / 4)]
      else none
    else
      let d ← value? d
      some [UInt8.ofNat (a * 4 + b / 16), UInt8.ofNat (b % 16 * 16 + c / 4),
        UInt8.ofNat (c % 4 * 64 + d)]

/-- Reads groups, of which any may be padded: several base64 texts one after another. -/
def decodeGroups : List Char → Option Bytes
  | [] => some []
  | a :: b :: c :: d :: rest => do
    let bs ← group? a b c d
    let more ← decodeGroups rest
    return bs ++ more
  | _ => none

/-- Reads groups, of which only the last may be padded. -/
def decodeChars : List Char → Option Bytes
  | [] => some []
  | a :: b :: c :: d :: rest => do
    let bs ← group? a b c d
    if rest.isEmpty then return bs
    else if d = '=' then none
    else
      let more ← decodeChars rest
      return bs ++ more
  | _ => none

/-- The octets of a base64 text. -/
def decode (s : String) : Option Bytes := decodeChars s.toList

end NodePki.Base64
