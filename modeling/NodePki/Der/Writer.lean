import NodePki.Der.Error

/-!
# DER writing

A value as tag, length in its shortest form and content. `tlv` writes any content; `encode?` and
`encodeText?` keep to what the strict reader can take back.
-/

namespace NodePki.Der

/-- A length in its shortest form. -/
def lengthOctets (n : Nat) : Bytes :=
  if n < 0x80 then [UInt8.ofNat n] else UInt8.ofNat (0x80 + Bytes.width n) :: Bytes.ofNat n

/-- A value with its identifier octet and length. -/
def tlvOf (identifier : UInt8) (content : Bytes) : Bytes :=
  identifier :: lengthOctets content.length ++ content

/-- A value with its tag and length. -/
def tlv (tag : Tag) (content : Bytes) : Bytes := tlvOf tag.octet content

/-- A value with its tag and length, unless it is too long. -/
def encode? (tag : Tag) (content : Bytes) : Except Error Bytes :=
  if maxLength < content.length then .error (.length tag)
  else if maxLength < (tlv tag content).length then .error .overflow
  else .ok (tlv tag content)

/-- A text as UTF-8 with its tag and length, unless it is too long. -/
def encodeText? (s : String) : Except Error Bytes :=
  let value := tlv .utf8String (Utf8.encode s)
  if maxLength < value.length then .error .overflow else .ok value

/-- A sequence of values. -/
def sequence (parts : List Bytes) : Bytes := tlv .sequence parts.flatten

/-- A set of values, in the given order. -/
def set (parts : List Bytes) : Bytes := tlv .set parts.flatten

/-- Octets of a number with a leading zero where its top bit is set, so that it is not negative. -/
def unsigned : Bytes → Bytes
  | [] => []
  | b :: bs => if b < 0x80 then b :: bs else 0 :: b :: bs

/-- A number that is not negative. -/
def natural (n : Nat) : Bytes := tlv .integer (unsigned (Bytes.ofNat n))

/-- An object identifier. -/
def objectIdentifier (content : Bytes) : Bytes := tlv .objectIdentifier content

/-- A string of whole octets as bits, of which the last `unused` do not count. -/
def bitString (unused : UInt8) (content : Bytes) : Bytes := tlv .bitString (unused :: content)

/-- A string of octets. -/
def octetString (content : Bytes) : Bytes := tlv .octetString content

/-- The true value. -/
def booleanTrue : Bytes := tlv .boolean [0xff]

end NodePki.Der
