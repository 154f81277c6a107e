import NodePki.Der.Writer
import NodePki.Error
import NodePki.Net.IpAddress

/-!
# Alternative names

The names of a certificate's subject and how they are written: `GeneralNames` is a sequence of DNS
names, addresses and other names, of which the last pair an object identifier with a text.
-/

namespace NodePki

/-- A text of a kind that an object identifier gives. -/
structure OtherName where
  oid : Oid
  value : String
  deriving DecidableEq, Repr

/-- A name of a certificate's subject. -/
inductive GeneralName
  | otherName (name : OtherName)
  | dnsName (name : String)
  | ipAddress (ip : IpAddress)
  deriving DecidableEq, Repr

/-- Writes a value, unless it is too long. -/
def writeDer (tag : Der.Tag) (content : Bytes) : Except Error Bytes :=
  (Der.encode? tag content).mapError Error.der

/-- Writes a text, unless it is too long. -/
def writeText (text : String) : Except Error Bytes := (Der.encodeText? text).mapError Error.der

/-- The tag of other names, and of the wrapper around their values. -/
abbrev otherNameTag : Der.Tag := .contextConstructed 0

/-- The tag of DNS names. -/
abbrev dnsNameTag : Der.Tag := .contextPrimitive 2

/-- The tag of addresses. -/
abbrev ipAddressTag : Der.Tag := .contextPrimitive 7

/-- Writes an other name: the identifier, then the text within a wrapper. -/
def OtherName.encode (n : OtherName) : Except Error Bytes := do
  let value ← writeText n.value
  let wrapped ← writeDer otherNameTag value
  let oid ← writeDer .objectIdentifier n.oid.content
  writeDer otherNameTag (oid ++ wrapped)

/-- Whether a text can be a DNS name: some characters, all of them ASCII. -/
def isDnsName (name : String) : Bool := name ≠ "" && name.toList.all fun c => c.toNat < 0x80

theorem isDnsName_iff {name : String} :
    isDnsName name ↔ name ≠ "" ∧ ∀ c ∈ name.toList, c.toNat < 0x80 := by
  simp [isDnsName]

namespace GeneralName

/-- Writes a name. -/
def encode : GeneralName → Except Error Bytes
  | otherName n => n.encode
  | dnsName name =>
    if isDnsName name then writeDer dnsNameTag (Utf8.encode name)
    else .error (.invalidIdentity (.dnsNameNotIa5 name))
  | ipAddress ip => writeDer ipAddressTag ip.octets

/-- Writes names one after another. -/
def encodeBody : List GeneralName → Except Error Bytes
  | [] => .ok []
  | n :: ns => do
    let first ← n.encode
    let rest ← encodeBody ns
    return first ++ rest

/-- Writes the value of the extension that holds the names; there is at least one. -/
def encodeAll (names : List GeneralName) : Except Error Bytes :=
  if names.isEmpty then .error (.invalidIdentity .noGeneralNames)
  else do writeDer .sequence (← encodeBody names)

end GeneralName

end NodePki
