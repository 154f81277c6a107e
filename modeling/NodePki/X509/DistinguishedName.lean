import NodePki.Data.Dict
import NodePki.Der.Writer
import NodePki.X509.Name

/-!
# Distinguished names

The names that authorities put into certificates: one attribute to a group, and no kind of attribute
twice.
-/

namespace NodePki.X509

/-- A text of one of the types that a distinguished name may hold, by the number of its type. -/
structure DirectoryString where
  number : Nat
  content : Bytes
  deriving DecidableEq, Repr

/-- A name as its attributes, by kind, in order. -/
structure DistinguishedName where
  attributes : Dict Oid DirectoryString
  deriving DecidableEq, Repr

namespace DirectoryString

/-- A text in UTF-8. -/
def ofText (text : String) : DirectoryString := ⟨12, Utf8.encode text⟩

/-- The characters of the type for printing. -/
def isPrintable (b : UInt8) : Bool :=
  let c := Char.ofNat b.toNat
  b < 0x80 && (c.isAlphanum || " '()+,-./:=?".toList.contains c)

/-- Whether each two octets are a character below the last of the first plane. -/
def isBasicPlane (content : Bytes) : Bool :=
  content.length % 2 = 0 &&
    (Attribute.units content).all fun u => !(0xd800 ≤ u && u ≤ 0xdfff) && u < 0xffff

/-- Whether each four octets are a character. -/
def isUniversal : Bytes → Bool
  | [] => true
  | a :: b :: c :: d :: rest =>
    let n := Bytes.toNat [a, b, c, d]
    (n < 0xd800 || (0xdfff < n && n < 0x110000)) && isUniversal rest
  | _ => false

/-- Whether octets are a text of the type with the given number. -/
def isValid (number : Nat) (content : Bytes) : Bool :=
  match number with
  | 12 => (Utf8.decode? content).isSome
  | 19 => content.all isPrintable
  | 20 => content.all fun b => 0x20 ≤ b && b < 0x80
  | 22 => content.all (· < 0x80)
  | 28 => isUniversal content
  | 30 => isBasicPlane content
  | _ => false

/-- The text of an attribute's value. -/
def ofElement? (e : Element) : Option DirectoryString :=
  if isValid e.number e.content then some ⟨e.number, e.content⟩ else none

/-- Writes a text with its type. -/
def encode (s : DirectoryString) : Bytes := Der.tlvOf (UInt8.ofNat s.number) s.content

end DirectoryString

namespace DistinguishedName

/-- The name that has only a common name. -/
def ofCommonName (text : String) : DistinguishedName :=
  ⟨Dict.empty.insert .commonName (.ofText text)⟩

/-- The kind and the text of an attribute. Kinds are told apart by their arcs, however these are
written. -/
def ofAttribute? (a : Attribute) : Option (Oid × DirectoryString) := do
  let arcs ← Attribute.arcs? a.oid
  let text ← DirectoryString.ofElement? a.value
  return (.ofArcs arcs, text)

/-- The name in a certificate. Groups of more than one attribute are refused; of two attributes of a
kind the later gives the value and the earlier the place. -/
def ofName? (n : Name) : Option DistinguishedName := do
  let entries ← n.groups.mapM fun group =>
    match group with
    | [a] => ofAttribute? a
    | _ => none
  return ⟨Dict.ofList entries⟩

/-- The content of a written name. -/
def content (n : DistinguishedName) : Bytes :=
  (n.attributes.entries.map fun a =>
    Der.set [Der.sequence [Der.objectIdentifier a.1.content, a.2.encode]]).flatten

/-- Writes a name. -/
def encode (n : DistinguishedName) : Bytes := Der.tlv .sequence n.content

end DistinguishedName

end NodePki.X509
