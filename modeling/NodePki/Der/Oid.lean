import NodePki.Der.Error
import NodePki.Text.Split

/-!
# Object identifiers

An identifier is kept as its content octets, so that one that was read is written back unchanged.
The strict reader accepts only some contents (`accepts`); the dotted text is defined for all.
-/

namespace NodePki

/-- An object identifier, as its content octets. -/
structure Oid where
  content : Bytes
  deriving DecidableEq, Repr

namespace Oid

/-- The base-128 digits of a number from the highest, at most as many as the first argument says. -/
def digits128 : Nat → Nat → List Nat
  | 0, _ => []
  | n + 1, arc => (if arc < 128 then [] else digits128 n (arc / 128)) ++ [arc % 128]

/-- The octets of an arc: base 128, with the top bit on all but the last. -/
def arcOctets (arc : Nat) : Bytes :=
  let ds := digits128 (arc.log2 / 7 + 1) arc
  ds.dropLast.map (fun d => UInt8.ofNat (d + 128)) ++ (ds.drop (ds.length - 1)).map UInt8.ofNat

/-- The identifier of a list of arcs, of which the first two share the first octets. -/
def ofArcs : List Nat → Oid
  | first :: second :: rest => ⟨((first * 40 + second) :: rest).flatMap arcOctets⟩
  | _ => ⟨[]⟩

/-- The identifier that a dotted text writes. -/
def ofDotted? (s : String) : Option Oid := do
  let parts := Text.splitOn '.' s.toList
  if parts.length < 2 then none
  else
    let arcs ← parts.mapM fun p =>
      if !p.isEmpty && p.all Char.isDigit then some (p.foldl (fun n c => n * 10 + (c.toNat - 0x30)) 0)
      else none
    return ofArcs arcs

/-- The arcs after the first octet; `arc` holds the digits read of the present one. Octets at the
end that close no arc give none. -/
def laterArcs (arc : Nat) : Bytes → List Nat
  | [] => []
  | b :: bs =>
    let arc := (arc * 128 + b.toNat % 128) % UInt32.size
    if b < 0x80 then arc :: laterArcs 0 bs else laterArcs arc bs

/-- All arcs of an identifier. -/
def arcs (oid : Oid) : List Nat :=
  match oid.content with
  | [] => []
  | b :: bs => b.toNat / 40 :: b.toNat % 40 :: laterArcs 0 bs

/-- The dotted text. -/
def dotted (oid : Oid) : String := Text.join "." (oid.arcs.map toString)

instance : ToString Oid := ⟨dotted⟩

/-- Whether octets are whole arcs of at most five octets, of which a fifth one stays below 16;
`place` counts the octets read of the present arc. -/
def acceptsArcs (place : Nat) : Bytes → Bool
  | [] => place == 0
  | b :: bs =>
    if 4 ≤ place && b &&& 0xf0 != 0 then false
    else acceptsArcs (if b < 0x80 then 0 else place + 1) bs

/-- The longest content that the strict reader takes. -/
def maxContent : Nat := 39

/-- The contents that the strict reader takes for an identifier: at least three octets, first arcs
up to 2 and 39, and whole later arcs. -/
def accepts (content : Bytes) : Bool :=
  match content with
  | first :: rest => 2 ≤ rest.length && first ≤ 119 && acceptsArcs 0 rest
  | [] => false

/-- `id-at-commonName`, the kind of the names that hold a node's identity. -/
def commonName : Oid := ⟨[0x55, 0x04, 0x03]⟩

/-- `id-ce-subjectAltName`. -/
def subjectAltName : Oid := ⟨[0x55, 0x1d, 0x11]⟩

end Oid

end NodePki
