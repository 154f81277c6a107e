import NodePki.Der.Tag
import NodePki.Text.Utf8

/-!
# Why octets are no DER

The refusals of the strict reader and their wording. Positions count from the start of the value
that is being read.
-/

namespace NodePki.Der

/-- Why the strict reader refuses its input. -/
inductive Error
  /-- The input, of `actual` octets, would have to reach to `expected`. -/
  | incomplete (expected actual position : Nat)
  /-- A length or position past `maxLength`. -/
  | overflow
  /-- A tag whose number continues in further octets. -/
  | longTag
  /-- An octet that is no known tag. -/
  | unknownTag (octet : UInt8)
  /-- A length that is left open. -/
  | indefiniteLength
  /-- A length that is not written in its shortest form, or that the type cannot have. -/
  | length (tag : Tag)
  /-- Octets after the end of the message. -/
  | trailing (decoded remaining : Nat)
  /-- Another type than the one that belongs here. -/
  | unexpectedTag (expected actual : Tag)
  /-- An object identifier that is none. -/
  | malformedOid
  /-- A text that is not UTF-8. -/
  | utf8 (cause : Utf8.Error)
  deriving DecidableEq, Repr

/-- The wording of a refusal. -/
def Error.message : Error → String
  | incomplete expected actual position =>
    s!"ASN.1 DER message is incomplete: expected {expected}, actual {actual} " ++
      s!"at DER byte {position}"
  | overflow => "integer overflow"
  | longTag => "invalid tag number"
  | unknownTag octet =>
    s!"unknown/unsupported ASN.1 DER tag: 0x{Hex.encode [octet]}"
  | indefiniteLength => "indefinite length disallowed"
  | length tag => s!"incorrect length for {tag.name}"
  | trailing decoded remaining =>
    s!"trailing data at end of DER message: decoded {decoded} bytes, " ++
      s!"{remaining} bytes remaining at DER byte {decoded}"
  | unexpectedTag expected actual =>
    s!"unexpected ASN.1 DER tag: expected {expected.name}, got {actual.name}"
  | malformedOid => "malformed OID"
  | utf8 cause => cause.message

/-- The greatest length and position that the reader and the writer handle. -/
def maxLength : Nat := 0x0fffffff

end NodePki.Der
