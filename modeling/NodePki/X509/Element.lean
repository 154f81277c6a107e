import NodePki.Bytes

/-!
# Values of certificates

The lenient reader that certificates are read with. A value has a class, a number and a content;
its length need not be in its shortest form, and numbers may continue in further octets. Only where
a reader says so may the length be left open: the content is then values up to the mark of the end.
What a container holds beyond the parts that are read is passed over.
-/

namespace NodePki.X509

/-- A value: its class, whether it is made of values, its number and its content. -/
structure Element where
  cls : Nat
  constructed : Bool
  number : Nat
  content : Bytes
  deriving DecidableEq, Repr

/-- What reads a part of some octets. -/
abbrev Reader := StateT Bytes Option

namespace Reader

/-- Takes one octet. -/
def octet : Reader UInt8 := fun bs =>
  match bs with
  | [] => none
  | b :: bs => some (b, bs)

/-- Takes `n` octets. -/
def take (n : Nat) : Reader Bytes := fun bs =>
  if bs.length < n then none else some (bs.take n, bs.drop n)

/-- Whether nothing is left. -/
def isFinished : Reader Bool := fun bs => some (bs.isEmpty, bs)

/-- Reads a content and passes over what it holds beyond. -/
def within {α : Type} (r : Reader α) (content : Bytes) : Option α := (r content).map (·.1)

/-- Reads a content to its end. -/
def whole {α : Type} (r : Reader α) (content : Bytes) : Option α :=
  match r content with
  | some (a, []) => some a
  | _ => none

/-- Reads as often as it goes, at most as often as the first argument says, and answers also what is
left. -/
def many {α : Type} (r : Reader α) : Nat → Bytes → List α × Bytes
  | 0, bs => ([], bs)
  | n + 1, bs =>
    match r bs with
    | none => ([], bs)
    | some (a, rest) => ((many r n rest).map (a :: ·) id)

/-- The values from the start of a content, as many as can be read. -/
def some? {α : Type} (r : Reader α) (content : Bytes) : List α := (many r content.length content).1

/-- The values that make up a content. -/
def all? {α : Type} (r : Reader α) (content : Bytes) : Option (List α) :=
  match many r content.length content with
  | (as, []) => some as
  | _ => none

end Reader

namespace Element

/-- The class of tags that are given by context. -/
def contextClass : Nat := 2

/-- Numbers of the universal types. -/
def booleanNumber : Nat := 1
/-- The number of INTEGER. -/
def integerNumber : Nat := 2
/-- The number of BIT STRING. -/
def bitStringNumber : Nat := 3
/-- The number of OCTET STRING. -/
def octetStringNumber : Nat := 4
/-- The number of SEQUENCE. -/
def sequenceNumber : Nat := 16
/-- The number of SET. -/
def setNumber : Nat := 17

/-- Reads the number of a tag that continues after its first octet: seven bits to the octet, at most
five octets, of which 32 bits count. -/
def longNumber : (octets value : Nat) → Reader Nat
  | 0, _ => fun _ => none
  | n + 1, value => do
    let b ← Reader.octet
    let value := (value * 128 + b.toNat % 128) % UInt32.size
    if b < 0x80 then return value else longNumber n value

/-- Reads a length, which is nothing where it is left open; one past 64 bits is refused. -/
def openLength : Reader (Option Nat) := do
  let b ← Reader.octet
  if b < 0x80 then return some b.toNat
  else if b = 0x80 then return none
  else if b = 0xff then fun _ => none
  else
    let n := Bytes.toNat (← Reader.take (b.toNat - 0x80))
    if n < UInt64.size then return some n else fun _ => none

/-- Reads a length that is not left open. -/
def length : Reader Nat := do
  match ← openLength with
  | some n => return n
  | none => fun _ => none

/-- Reads class, form and number. -/
def identifier : Reader (Nat × Bool × Nat) := do
  let b ← Reader.octet
  let short := b.toNat % 32
  let number ← if short = 31 then longNumber 5 0 else pure short
  return (b.toNat / 64, b.toNat / 32 % 2 = 1, number)

/-- Reads class, form, number and length. -/
def header : Reader (Nat × Bool × Nat × Nat) := do
  let (cls, constructed, number) ← identifier
  return (cls, constructed, number, ← length)

/-- Reads a value. -/
def read : Reader Element := do
  let (cls, constructed, number, len) ← header
  return ⟨cls, constructed, number, ← Reader.take len⟩

/-- Reads until the end is found, at most as often as said. -/
def untilEnd (isEnd : Reader Bool) : Nat → Reader Unit
  | 0 => fun _ => none
  | n + 1 => do if ← isEnd then return () else untilEnd isEnd n

/-- Passes over a value that is at most `depth` values deep, where only lengths left open count as
going deeper; whether it is the mark of an end, which is empty and has number 0. -/
def skip : (depth : Nat) → Reader Bool
  | 0 => fun _ => none
  | depth + 1 => do
    let (_, constructed, number) ← identifier
    match ← openLength with
    | some len =>
      let _ ← Reader.take len
      return len = 0 && number = 0
    | none =>
      if !constructed then fun _ => none
      else fun bs => (untilEnd (skip depth) bs.length bs).map fun (_, rest) => (false, rest)

/-- Reads a value whose length may be left open; it is then at most 50 values deep. -/
def readOpen : Reader Element := do
  let (cls, constructed, number) ← identifier
  match ← openLength with
  | some len => return ⟨cls, constructed, number, ← Reader.take len⟩
  | none =>
    if !constructed then fun _ => none
    else fun bs => (untilEnd (skip 49) bs.length bs).map fun (_, rest) =>
      (⟨cls, constructed, number, bs.take (bs.length - rest.length - 2)⟩, rest)

/-- Reads a value with the given number. -/
def expect (number : Nat) : Reader Element := do
  let e ← read
  if e.number = number then return e else fun _ => none

/-- Reads a value with the given number and its content, of which the end may be left. -/
def container {α : Type} (number : Nat) (r : Reader α) : Reader α := do
  let e ← expect number
  fun bs => (Reader.within r e.content).map (·, bs)

/-- Reads a sequence. -/
def sequence {α : Type} (r : Reader α) : Reader α := container sequenceNumber r

/-- Reads a value that is not made of values. -/
def primitive : Reader Bytes := do
  let e ← read
  if e.constructed then fun _ => none else return e.content

/-- Whether the last bits of some octets, as many as said, are there and zero. -/
def endsInZeros (count : Nat) (octets : Bytes) : Bool :=
  match octets.getLast? with
  | none => count = 0
  | some last => count ≤ 8 && last.toNat % Nat.pow 2 count = 0

/-- The value as a string of bits: the number of unused ones, which are zero, and the octets. -/
def bits? (e : Element) : Option (UInt8 × Bytes) :=
  match e.content with
  | unused :: octets =>
    if !e.constructed && endsInZeros unused.toNat octets then some (unused, octets) else none
  | [] => none

/-- Reads a string of bits. -/
def bitString : Reader (UInt8 × Bytes) := do
  let e ← expect bitStringNumber
  fun bs => e.bits?.map (·, bs)

end Element

end NodePki.X509
