import NodePki.Der.Oid

/-!
# Strict DER reading

A reader takes octets from a cursor and knows how many came before. Lengths are definite and in
their shortest form, and a tag is one octet.
-/

namespace NodePki.Der

/-- The octets still to read and the number of those already read. -/
structure Cursor where
  position : Nat
  rest : Bytes
  deriving DecidableEq, Repr

/-- What reads a value from a cursor. -/
abbrev Reader := StateT Cursor (Except Error)

namespace Reader

/-- Refuses the input. -/
def fail {α : Type} (e : Error) : Reader α := fun _ => .error e

/-- Takes `n` octets. -/
def take (n : Nat) : Reader Bytes := fun c =>
  if maxLength < c.position + n then .error .overflow
  else if c.rest.length < n then
    .error (.incomplete (c.position + n) (c.position + c.rest.length) c.position)
  else .ok (c.rest.take n, ⟨c.position + n, c.rest.drop n⟩)

/-- Takes one octet. -/
def octet : Reader UInt8 := fun c =>
  if maxLength < c.position + 1 then .error .overflow
  else
    match c.rest with
    | [] => .error (.incomplete (c.position + 1) c.position c.position)
    | b :: rest => .ok (b, ⟨c.position + 1, rest⟩)

/-- Whether nothing is left. -/
def isFinished : Reader Bool := fun c => .ok (c.rest.isEmpty, c)

/-- Reads a tag. -/
def tag : Reader Tag := do
  let b ← octet
  if Tag.hasLongNumber b then fail .longTag
  else
    match Tag.ofOctet? b with
    | some t => return t
    | none => fail (.unknownTag b)

/-- Reads `n` octets one by one. -/
def octets : Nat → Reader Bytes
  | 0 => return []
  | n + 1 => do
    let b ← octet
    let bs ← octets n
    return b :: bs

/-- Whether `n` octets are the least that can hold a length of more than one octet. -/
def isShortest (n len : Nat) : Bool := 0x80 ≤ len && (n == 1 || Nat.pow 256 (n - 1) ≤ len)

/-- Reads the length of a value with the given tag. -/
def length (t : Tag) : Reader Nat := do
  let b ← octet
  if b < 0x80 then return b.toNat
  else if b = 0x80 then fail .indefiniteLength
  else if 0x84 < b then fail (.length t)
  else
    let n := b.toNat - 0x80
    let len := Bytes.toNat (← octets n)
    if maxLength < len then fail .overflow
    else if isShortest n len then return len
    else fail (.length t)

/-- Reads a tag and a length. -/
def header : Reader (Tag × Nat) := do
  let t ← tag
  let len ← length t
  return (t, len)

/-- Reads a value of any type: its tag and its content. -/
def any : Reader (Tag × Bytes) := do
  let (t, len) ← header
  return (t, ← take len)

/-- Reads tag and length of a value that must have the given tag. -/
def headerOf (expected : Tag) : Reader Nat := do
  let (t, len) ← header
  if t = expected then return len else fail (.unexpectedTag expected t)

/-- Reads an object identifier. -/
def oid : Reader Oid := do
  let len ← headerOf .objectIdentifier
  if Oid.maxContent < len then fail (.length .objectIdentifier)
  else
    let content ← take len
    if Oid.accepts content then return ⟨content⟩ else fail .malformedOid

/-- Reads a text. -/
def utf8String : Reader String := do
  let len ← headerOf .utf8String
  match Utf8.decode (← take len) with
  | .ok s => return s
  | .error e => fail (.utf8 e)

end Reader

/-- Reads a whole message, which is not longer than `maxLength`: nothing may follow the value. -/
def decode {α : Type} (r : Reader α) (bs : Bytes) : Except Error α :=
  if maxLength < bs.length then .error .overflow
  else do
    let (a, c) ← r ⟨0, bs⟩
    if c.rest.isEmpty then return a else throw (.trailing c.position c.rest.length)

end NodePki.Der
