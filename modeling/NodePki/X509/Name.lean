import NodePki.Der.Oid
import NodePki.Encoding.Hex
import NodePki.Text.Utf8
import NodePki.X509.Element
import NodePki.X509.ShortName

/-!
# Names of subjects and issuers

A name is a list of groups of attributes. Reading ends without complaint at the first group that
cannot be read; the text of a name has no escapes.
-/

namespace NodePki.X509

/-- An attribute of a name. -/
structure Attribute where
  oid : Oid
  value : Element
  deriving DecidableEq, Repr

/-- A name, as groups of attributes. -/
structure Name where
  groups : List (List Attribute)
  deriving DecidableEq, Repr

namespace Attribute

/-- Reads an attribute. -/
def read : Reader Attribute :=
  Element.sequence do
    let oid ← Element.primitive
    let value ← Element.read
    return ⟨⟨oid⟩, value⟩

/-- The types of text of which one octet is one unit of UTF-8. -/
def isText (number : Nat) : Bool := [7, 12, 18, 19, 20, 21, 22, 25, 26, 27].contains number

/-- The units of sixteen bits of octets; an odd last octet is one of its own. -/
def units : Bytes → List Nat
  | [] => []
  | [a] => [a.toNat]
  | a :: b :: rest => (a.toNat * 256 + b.toNat) :: units rest

/-- The characters of units of sixteen bits, of which some stand in pairs for one character. -/
def ofUnits? : List Nat → Option (List Char)
  | [] => some []
  | u :: rest =>
    if 0xdc00 ≤ u && u ≤ 0xdfff then none
    else if 0xd800 ≤ u && u ≤ 0xdbff then
      match rest with
      | v :: rest =>
        if 0xdc00 ≤ v && v ≤ 0xdfff then
          (ofUnits? rest).map
            (Char.ofNat (0x10000 + (u - 0xd800) * 0x400 + (v - 0xdc00)) :: ·)
        else none
      | [] => none
    else (ofUnits? rest).map (Char.ofNat u :: ·)

/-- The text of a value: that of the text types, and hexadecimal digits for others. -/
def valueText? (e : Element) : Option String :=
  if isText e.number then Utf8.decode? e.content
  else if e.number = 30 then (ofUnits? (units e.content)).map String.ofList
  else some (Hex.encodeUpper e.content)

/-- The arcs of an identifier that is read leniently, after its first octet; none if an arc takes
more than 64 bits. `groups` counts the octets of the present arc, which the end of the octets ends
too. -/
def laterArcs? (arc groups : Nat) : Bytes → Option (List Nat)
  | [] => some (if groups = 0 then [] else [arc % UInt64.size])
  | b :: bs =>
    let arc := arc * 128 + b.toNat % 128
    if b < 0x80 then
      if 9 ≤ groups then none else (laterArcs? 0 0 bs).map (arc :: ·)
    else laterArcs? arc (groups + 1) bs

/-- All arcs of an identifier that is read leniently. -/
def arcs? (oid : Oid) : Option (List Nat) :=
  match oid.content with
  | [] => some []
  | [0] => some [0]
  | b :: bs => (laterArcs? 0 0 bs).map fun arcs => b.toNat / 40 :: b.toNat % 40 :: arcs

/-- The dotted text of an identifier that is read leniently; its octets if an arc is too long. -/
def oidText (oid : Oid) : String :=
  match arcs? oid with
  | some arcs => Text.join "." (arcs.map toString)
  | none => Hex.encodeWith " " oid.content

/-- The name of an attribute's kind. -/
def kind (oid : Oid) : String :=
  (ShortName.of? oid).getD s!"OID({oidText oid})"

/-- The text of an attribute. -/
def text? (a : Attribute) : Option String := do
  let value ← valueText? a.value
  return s!"{kind a.oid}={value}"

end Attribute

namespace Name

/-- Reads a group of at least one attribute. -/
def readGroup : Reader (List Attribute) :=
  Element.container Element.setNumber fun bs =>
    match Reader.some? Attribute.read bs with
    | [] => none
    | as => some (as, [])

/-- Reads a name. -/
def read : Reader Name :=
  Element.sequence fun bs => some (⟨Reader.some? readGroup bs⟩, [])

/-- The attributes of a name, in order. -/
def attributes (n : Name) : List Attribute := n.groups.flatten

/-- The text of a name. -/
def text (n : Name) : String :=
  match n.groups.mapM fun group => group.mapM Attribute.text? with
  | some groups => Text.join ", " (groups.map (Text.join " + "))
  | none => "<X509Error: Invalid X.509 name>"

/-- The types of text that a common name may have. -/
def isCommonNameText (number : Nat) : Bool := [12, 18, 19, 22].contains number

/-- The first common name, if it is a text. -/
def commonName? (n : Name) : Option String :=
  match n.attributes.find? (·.oid = Oid.commonName) with
  | some a => if isCommonNameText a.value.number then Utf8.decode? a.value.content else none
  | none => none

end Name

end NodePki.X509
