import NodePki.Encoding.Hex
import NodePki.Net.IpAddress
import NodePki.Text.Split

/-!
# IP addresses as text

Reading and writing the usual forms: four decimal numbers with points, or eight groups of
hexadecimal digits with colons, in which `::` stands for the groups of zeros that are missing.
-/

namespace NodePki.IpAddress

/-- The value of a decimal number of at most three digits and without leading zeros, up to 255. -/
def octet? (cs : List Char) : Option UInt8 :=
  if cs.isEmpty || 3 < cs.length || !cs.all Char.isDigit then none
  else if cs.head? = some '0' && 1 < cs.length then none
  else
    let n := cs.foldl (fun n c => n * 10 + (c.toNat - 0x30)) 0
    if n ≤ 255 then some (UInt8.ofNat n) else none

/-- Four decimal numbers with points between them. -/
def parseV4? (cs : List Char) : Option (Vector UInt8 4) :=
  match (Text.splitOn '.' cs).map octet? with
  | [some a, some b, some c, some d] => some #v[a, b, c, d]
  | _ => none

/-- One group of an IPv6 address: one to four hexadecimal digits. -/
def group? (cs : List Char) : Option Nat :=
  if cs.isEmpty || 4 < cs.length then none
  else cs.foldlM (fun n c => (Hex.value? c).map (n * 16 + ·)) 0

/-- The groups of one side of an IPv6 address; the last two may be written as an IPv4 address. -/
def groups? : List (List Char) → Option (List Nat)
  | [] => some []
  | [piece] =>
    match parseV4? piece with
    | some o => some [o[0].toNat * 256 + o[1].toNat, o[2].toNat * 256 + o[3].toNat]
    | none => (group? piece).map ([·])
  | piece :: more => do
    let g ← group? piece
    let gs ← groups? more
    return g :: gs

/-- The groups of a text that may be empty. -/
def side? (cs : List Char) : Option (List Nat) :=
  if cs.isEmpty then some [] else groups? (Text.splitOn ':' cs)

/-- The octets of eight groups. -/
def ofGroups? (gs : List Nat) : Option (Vector UInt8 16) :=
  let bs := gs.flatMap (Bytes.ofWidth 2)
  if h : bs.length = 16 then some ⟨bs.toArray, by simpa using h⟩ else none

/-- Eight groups, or fewer around one `::`, before which no IPv4 address stands. -/
def parseV6? (cs : List Char) : Option (Vector UInt8 16) :=
  match Text.splitFirstOf [':', ':'] cs with
  | none => (side? cs).bind ofGroups?
  | some (head, tail) => do
    let front ← side? head
    let back ← side? tail
    if head.contains '.' || 7 < front.length + back.length then none
    else
      let zeros := List.replicate (8 - front.length - back.length) 0
      ofGroups? (front ++ zeros ++ back)

/-- The address that a text writes. -/
def parse? (s : String) : Option IpAddress :=
  let cs := s.toList
  match parseV4? cs with
  | some o => some (v4 o)
  | none => (parseV6? cs).map v6

/-- Four decimal numbers with points between them. -/
def textV4 (o : Vector UInt8 4) : String :=
  Text.join "." (o.toList.map fun b => toString b.toNat)

/-- The eight groups of sixteen octets. -/
def groupsOf : Bytes → List Nat
  | a :: b :: rest => (a.toNat * 256 + b.toNat) :: groupsOf rest
  | _ => []

/-- The number of zeros at the start of a list. -/
def leadingZeros (gs : List Nat) : Nat := (gs.takeWhile (· == 0)).length

/-- Start and length of the longest run of zeros, the first of equals; `start` is the place of the
list in the address, and `best` the longest run before it. -/
def longestRun (start : Nat) (best : Nat × Nat) : List Nat → Nat × Nat
  | [] => best
  | g :: gs =>
    let here := leadingZeros (g :: gs)
    longestRun (start + 1) (if best.2 < here then (start, here) else best) gs

/-- Groups with colons between them. -/
def textGroups (gs : List Nat) : String := Text.join ":" (gs.map Hex.ofNat)

/-- The groups with the longest run of two or more zeros as `::`; an address that stands for an
IPv4 one ends in its text. -/
def textV6 (o : Vector UInt8 16) : String :=
  match mapped? o with
  | some p => "::ffff:" ++ textV4 p
  | none =>
    let gs := groupsOf o.toList
    let run := longestRun 0 (0, 0) gs
    if run.2 < 2 then textGroups gs
    else textGroups (gs.take run.1) ++ "::" ++ textGroups (gs.drop (run.1 + run.2))

/-- The text of an address. -/
def text : IpAddress → String
  | v4 o => textV4 o
  | v6 o => textV6 o

instance : ToString IpAddress := ⟨text⟩

end NodePki.IpAddress
