import NodePki.Encoding.Hex

/-!
# DER tags

The identifier octets that the strict reader knows, as values, and their names in messages:

* `ofOctet?_octet`: the octet of a tag stands for that tag;
* `octet_of_ofOctet?`: no two octets stand for one tag.
-/

namespace NodePki.Der

/-- The classes of tags whose numbers are given by context. -/
inductive TagClass
  | application
  | contextSpecific
  | privateUse
  deriving DecidableEq, Repr

/-- The two bits at the top of the identifier octet. -/
def TagClass.bits : TagClass → UInt8
  | application => 0x40
  | contextSpecific => 0x80
  | privateUse => 0xc0

/-- The name of a class in messages. -/
def TagClass.name : TagClass → String
  | application => "APPLICATION"
  | contextSpecific => "CONTEXT-SPECIFIC"
  | privateUse => "PRIVATE"

/-- A tag: a universal type, or a number within a class. -/
inductive Tag
  | boolean
  | integer
  | bitString
  | octetString
  | null
  | objectIdentifier
  | real
  | enumerated
  | utf8String
  | numericString
  | printableString
  | teletexString
  | videotexString
  | ia5String
  | utcTime
  | generalizedTime
  | visibleString
  | bmpString
  | sequence
  | set
  | numbered (cls : TagClass) (constructed : Bool) (number : Fin 31)
  deriving DecidableEq, Repr

namespace Tag

/-- The numbers of the context can be written as numerals. -/
instance : @NeZero Nat Zero.ofOfNat0 31 := ⟨Nat.succ_ne_zero 30⟩

/-- `[n]` of the context, constructed. -/
abbrev contextConstructed (n : Fin 31) : Tag := numbered .contextSpecific true n

/-- `[n]` of the context, primitive. -/
abbrev contextPrimitive (n : Fin 31) : Tag := numbered .contextSpecific false n

/-- The universal types with their octets and names. -/
def universal : List (UInt8 × Tag × String) := [
  (0x01, boolean, "BOOLEAN"), (0x02, integer, "INTEGER"), (0x03, bitString, "BIT STRING"),
  (0x04, octetString, "OCTET STRING"), (0x05, null, "NULL"),
  (0x06, objectIdentifier, "OBJECT IDENTIFIER"), (0x09, real, "REAL"),
  (0x0a, enumerated, "ENUMERATED"), (0x0c, utf8String, "UTF8String"),
  (0x12, numericString, "NumericString"), (0x13, printableString, "PrintableString"),
  (0x14, teletexString, "TeletexString"), (0x15, videotexString, "VideotexString"),
  (0x16, ia5String, "IA5String"), (0x17, utcTime, "UTCTime"),
  (0x18, generalizedTime, "GeneralizedTime"), (0x1a, visibleString, "VisibleString"),
  (0x1e, bmpString, "BMPString"), (0x30, sequence, "SEQUENCE"), (0x31, set, "SET")]

/-- The identifier octet of a tag. -/
def octet : Tag → UInt8
  | numbered cls constructed number =>
    cls.bits ||| (if constructed then 0x20 else 0) ||| UInt8.ofNat number.val
  | tag => ((universal.find? (·.2.1 = tag)).map (·.1)).getD 0

/-- The name of a tag in messages. -/
def name : Tag → String
  | numbered cls constructed number =>
    let form := if constructed then "constructed" else "primitive"
    s!"{cls.name} [{number.val}] ({form})"
  | tag => ((universal.find? (·.2.1 = tag)).map (·.2.2)).getD ""

/-- Number 31, which would continue in further octets. -/
def hasLongNumber (b : UInt8) : Bool := b &&& 0x1f == 0x1f

/-- The tag that an identifier octet stands for. -/
def ofOctet? (b : UInt8) : Option Tag :=
  if h : b.toNat % 32 < 31 then
    let number : Fin 31 := ⟨b.toNat % 32, h⟩
    let constructed := b &&& 0x20 != 0
    if b < 0x40 then (universal.find? (·.1 = b)).map (·.2.1)
    else if b < 0x80 then some (numbered .application constructed number)
    else if b < 0xc0 then some (numbered .contextSpecific constructed number)
    else some (numbered .privateUse constructed number)
  else none

theorem ofOctet?_octet (t : Tag) : ofOctet? t.octet = some t := by
  cases t with
  | numbered cls constructed number =>
    revert number
    cases cls <;> cases constructed <;> decide
  | _ => rfl

theorem octet_of_ofOctet? {b : UInt8} {t : Tag} (h : ofOctet? b = some t) : t.octet = b := by
  have all : ∀ n : Fin 256,
      (ofOctet? (UInt8.ofNat n.val)).all (fun t => t.octet == UInt8.ofNat n.val) = true := by
    decide +kernel
  have hb := all ⟨b.toNat, b.toNat_lt⟩
  rw [UInt8.ofNat_toNat, h] at hb
  simpa using hb

theorem hasLongNumber_octet (t : Tag) : hasLongNumber t.octet = false := by
  cases t with
  | numbered cls constructed number =>
    revert number
    cases cls <;> cases constructed <;> decide
  | _ => rfl

end Tag

end NodePki.Der
