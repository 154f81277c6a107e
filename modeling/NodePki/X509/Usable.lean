import NodePki.X509.AlternativeName
import NodePki.X509.DistinguishedName
import NodePki.X509.Unsigned

/-!
# Certificates an authority can be loaded from

What is asked of the certificate of an authority beyond that it can be read: no extension of a known
kind twice, alternative names of the usual kinds only, no more than 255 authorities below it, and
uses and constrained names in their forms. That it is the certificate of an authority at all is not
asked, so constraints on its path that cannot be read are passed over.
-/

namespace NodePki.X509

namespace Certificate

/-- Kinds of extensions that may occur once at most. -/
def uniqueExtensions : List Oid := [
  Extension.basicConstraintsOid, .subjectAltName, Extension.keyUsageOid,
  Extension.extendedKeyUsageOid, Extension.nameConstraintsOid]

/-- The number of authorities that may follow: it is not negative and takes at most 32 bits. -/
def pathLength? (e : Element) : Option Nat :=
  match e with
  | ⟨0, false, 2, b :: bs⟩ | ⟨0, false, 10, b :: bs⟩ =>
    let n := Bytes.toNat (b :: bs)
    if b < 0x80 && n < UInt32.size then some n else none
  | _ => none

/-- The truth value of an element. -/
def flag? (e : Element) : Option Bool :=
  match e with
  | ⟨0, false, 1, [0xff]⟩ => some true
  | ⟨0, false, 1, [0x00]⟩ => some false
  | _ => none

/-- Whether the subject is an authority, and how many authorities may follow below it. -/
def basicConstraintsOf? (value : Bytes) : Option (Bool × Option Nat) := do
  let (e, _) ← Element.expect Element.sequenceNumber value
  match ← Reader.all? Element.read e.content with
  | [] => some (false, none)
  | [a] =>
    match flag? a with
    | some isAuthority => some (isAuthority, none)
    | none => (pathLength? a).map fun n => (false, some n)
  | [a, b] => do
    let isAuthority ← flag? a
    let n ← pathLength? b
    return (isAuthority, some n)
  | _ => none

/-- The constraints of a certificate, if its one extension of that kind can be read. -/
def basicConstraints? (c : Certificate) : Option (Bool × Option Nat) :=
  match c.extensionsOf Extension.basicConstraintsOid with
  | [e] => basicConstraintsOf? e.value
  | _ => none

/-- Whether a certificate says that its subject is an authority. -/
def isAuthority (c : Certificate) : Bool := (c.basicConstraints?.map (·.1)).getD false

/-- The octets of the text that the value of another name is, in its wrapper. -/
def wrappedText? (value : Bytes) : Option Bytes := do
  let wrapper ← Reader.within Element.read value
  if wrapper.cls = Element.contextClass && wrapper.constructed && wrapper.number = 0 then
    let text ← Reader.within Element.read wrapper.content
    if text.number = 12 && (Utf8.decode? text.content).isSome then some text.content else none
  else none

/-- Whether an entry of the alternative names is of a usual kind. -/
def isUsableName : AlternativeName → Bool
  | .mail text | .dnsName text | .uri text => text.toList.all fun c => c.toNat < 0x80
  | .ipAddress octets => octets.length = 4 || octets.length = 16
  | .otherName oid value => (Attribute.arcs? oid).isSome && (wrappedText? value).isSome
  | .directory _ | .other _ _ => false

/-- The octets of the string of bits that the value of an extension starts with, of which fewer than
eight bits are unused and zero. -/
def keyUses? (value : Bytes) : Option Bytes :=
  match Element.expect Element.bitStringNumber value with
  | some (⟨_, false, _, unused :: octets⟩, _) =>
    if unused < 8 && (octets.isEmpty || Element.endsInZeros unused.toNat octets) then some octets
    else none
  | _ => none

/-- The identifiers in the list that the value of an extension starts with. -/
def extendedUses? (value : Bytes) : Option (List Oid) := do
  let (e, _) ← Element.expect Element.sequenceNumber value
  let contents ← Reader.all? Element.primitive e.content
  return contents.map Oid.mk

/-- Reads the names in the wrapper with the given number; there are none if the wrapper is missing or
does not hold at least one name, and nothing but names, each in a sequence. -/
def readSubtrees (number : Nat) : Reader (List AlternativeName) := fun bs =>
  match Element.read bs with
  | some (⟨cls, true, n, content⟩, rest) =>
    match Reader.all? (Element.sequence AlternativeName.read) content with
    | some (name :: names) =>
      if cls ≠ 0 && n = number then some (name :: names, rest) else some ([], bs)
    | _ => some ([], bs)
  | _ => some ([], bs)

/-- The names that the value of an extension permits, and those that it excludes. -/
def constrainedNames? (value : Bytes) : Option (List AlternativeName × List AlternativeName) :=
  Reader.within (Element.sequence do return (← readSubtrees 0, ← readSubtrees 1)) value

/-- Whether a name may be permitted or excluded: that of a directory must be one that an authority
can have. -/
def isUsableConstraint : AlternativeName → Bool
  | .directory name => (DistinguishedName.ofName? name).isSome
  | _ => true

/-- Whether an authority can be loaded from a certificate. -/
def isUsable (c : Certificate) : Bool :=
  (uniqueExtensions.all fun oid => (c.extensionsOf oid).length ≤ 1) &&
    (match c.basicConstraints? with
      | some (true, some n) => n ≤ 255
      | _ => true) &&
    (c.alternativeNames?.any fun names => names.all isUsableName) &&
    ((c.extensionsOf Extension.keyUsageOid).all fun e => (keyUses? e.value).isSome) &&
    ((c.extensionsOf Extension.extendedKeyUsageOid).all fun e => (extendedUses? e.value).isSome) &&
    ((c.extensionsOf Extension.nameConstraintsOid).all fun e =>
      (constrainedNames? e.value).any fun (permitted, excluded) =>
        (permitted ++ excluded).all isUsableConstraint)

end Certificate

end NodePki.X509
