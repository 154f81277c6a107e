import NodePki.X509.Usable

/-!
# Certificates written again

What is kept of a certificate when its subject is to sign it again with another key: the serial number,
the time for which it is valid, the subject, and what its extensions say of names, uses and
constraints. Each extension is written in one form and in its place, whatever form and place it had;
what a signer has no words for is left out.
-/

namespace NodePki.X509

namespace AlternativeName

/-- Writes an entry of a usual kind. -/
def encode? : AlternativeName → Option Bytes
  | mail text => some (Der.tlv (.contextPrimitive 1) (Utf8.encode text))
  | dnsName text => some (Der.tlv (.contextPrimitive 2) (Utf8.encode text))
  | uri text => some (Der.tlv (.contextPrimitive 6) (Utf8.encode text))
  | ipAddress octets => some (Der.tlv (.contextPrimitive 7) octets)
  | otherName oid value => do
    let arcs ← Attribute.arcs? oid
    let text ← Certificate.wrappedText? value
    return Der.tlv (.contextConstructed 0) (Der.objectIdentifier (Oid.ofArcs arcs).content ++
      Der.tlv (.contextConstructed 0) (Der.tlv .utf8String text))
  | directory _ | other _ _ => none

/-- Writes what stands for the names that are permitted or excluded: hosts of DNS and of mail, names
of directories, and addresses with their masks. -/
def encodeSubtree? : AlternativeName → Option Bytes
  | mail text => encode? (mail text)
  | dnsName text => encode? (dnsName text)
  | directory name =>
    (DistinguishedName.ofName? name).map fun n => Der.tlv (.contextConstructed 4) n.content
  | ipAddress octets =>
    if octets.length = 8 || octets.length = 32 then encode? (ipAddress octets) else none
  | _ => none

/-- Writes the names that are permitted or excluded in their wrapper, which is left out if there are
none. -/
def encodeSubtrees (number : Fin 31) (names : List AlternativeName) : Bytes :=
  let subtrees := names.filterMap encodeSubtree?
  if subtrees.isEmpty then []
  else Der.tlv (.contextConstructed number) (subtrees.map fun e => Der.sequence [e]).flatten

end AlternativeName

namespace Certificate

/-- The alternative names. -/
def renewedNames (c : Certificate) : List Extension :=
  let names := (c.alternativeNames?.getD []).filterMap AlternativeName.encode?
  if names.isEmpty then [] else [⟨.subjectAltName, false, Der.sequence names⟩]

/-- What the key may be used for, if it may be used for anything. -/
def renewedKeyUsage (c : Certificate) : List Extension :=
  (c.extensionsOf Extension.keyUsageOid).filterMap fun e => do
    let octets ← keyUses? e.value
    let first := octets.getD 0 0
    let second := octets.getD 1 0 &&& 0x80
    if first = 0 && second = 0 then none else some (.keyUsage first second)

/-- The uses of a certificate that a signer knows, in their order: any at all, for servers, for clients,
for code, for mail, for stamps of time and for the state of certificates. -/
def knownUses : List Oid :=
  ⟨[0x55, 0x1d, 0x25, 0x00]⟩ :: Extension.serverAuthOid :: Extension.clientAuthOid ::
    [0x03, 0x04, 0x08, 0x09].map fun last => ⟨[0x2b, 0x06, 0x01, 0x05, 0x05, 0x07, 0x03, last]⟩

/-- What the certificate is for, as far as it is known. -/
def renewedExtendedKeyUsage (c : Certificate) : List Extension :=
  (c.extensionsOf Extension.extendedKeyUsageOid).filterMap fun e => do
    let stated ← extendedUses? e.value
    let uses := knownUses.filter stated.contains
    if uses.isEmpty then none else some (.extendedKeyUsage uses)

/-- The names that authorities below may give. -/
def renewedNameConstraints (c : Certificate) : List Extension :=
  (c.extensionsOf Extension.nameConstraintsOid).filterMap fun e => do
    let (permitted, excluded) ← constrainedNames? e.value
    let trees := AlternativeName.encodeSubtrees 0 permitted ++ AlternativeName.encodeSubtrees 1 excluded
    if trees.isEmpty then none else some ⟨Extension.nameConstraintsOid, true, Der.tlv .sequence trees⟩

/-- The octets by which the certificate says that the key of its subject is known. -/
def keyIdentifier? (c : Certificate) : Option Bytes :=
  (c.extensionsOf Extension.subjectKeyIdentifierOid).findSome? fun e =>
    match Element.expect Element.octetStringNumber e.value with
    | some (⟨_, false, _, octets⟩, _) => some octets
    | _ => none

/-- Whether the subject is an authority, after the octets by which its key is known; neither if the
certificate does not say. -/
def renewedConstraints (c : Certificate) (key : PublicKey) : List Extension :=
  match c.basicConstraints? with
  | none => []
  | some (isAuthority, below) => [
    (c.keyIdentifier?.map Extension.keyIdentifier).getD (.subjectKeyIdentifier key),
    .constraints isAuthority (if isAuthority then below else none)]

/-- The extensions. What the key may be used for is not worth extensions by itself. -/
def renewedExtensions (c : Certificate) (key : PublicKey) : List Extension :=
  let names := c.renewedNames
  let others := c.renewedExtendedKeyUsage ++ c.renewedNameConstraints ++ c.renewedConstraints key
  if names.isEmpty && others.isEmpty then [] else names ++ c.renewedKeyUsage ++ others

/-- The certificate as its subject signs it again, under its name and for another key. -/
def renewed (c : Certificate) (name : DistinguishedName) (key : PublicKey) : UnsignedCertificate where
  serial := Der.unsigned (Bytes.ofNat (Bytes.toNat c.serial))
  issuer := name
  notBefore := .ofSeconds c.notBefore.toSeconds
  notAfter := .ofSeconds c.notAfter.toSeconds
  subject := name
  publicKey := key
  extensions := c.renewedExtensions key

end Certificate

end NodePki.X509
