import NodePki.Proofs.Der.Takes
import NodePki.Proofs.X509.Certificate
import NodePki.X509.Renewal

/-!
# Authorities' own certificates written again

The certificate that an authority has written for itself is in the form in which it is written again.
So once it was read, it is written as it was, under the same name and for the same key
(`Certificate.IsReadFrom.encode_renewed`): its serial number has no zeros in front, its times are kept to the
second (`Time.encodeTime_ofInstant`), and its extensions stand in their places
(`Certificate.renewedExtensions_of_extensions`).
-/

namespace NodePki

/-- Octets that write a positive number in its shortest form. -/
def Der.IsPositive (content : Bytes) : Prop :=
  ∃ b bs, content = b :: bs ∧ b ≠ 0 ∧ b < 0x80

theorem Der.IsPositive.unsigned_toNat {content : Bytes} (h : Der.IsPositive content) :
    unsigned (Bytes.ofNat (Bytes.toNat content)) = content := by
  obtain ⟨b, bs, rfl, hpos, hlt⟩ := h
  rw [Bytes.ofNat_toNat_cons hpos, unsigned, if_pos hlt]

namespace X509.Certificate

variable {c : Certificate} {key : PublicKey}

section Extensions

variable (h : c.extensions =
  [.authorityKeyUsage, .subjectKeyIdentifier key, .basicConstraints true])

include h

theorem extensionsOf_of_extensions (oid : Oid) :
    c.extensionsOf oid = [.authorityKeyUsage, .subjectKeyIdentifier key,
      .basicConstraints true].filter (·.oid = oid) := by
  rw [extensionsOf, h]

theorem alternativeNames?_of_extensions : c.alternativeNames? = some [] := by
  rw [alternativeNames?, extensionsOf_of_extensions h]
  rfl

theorem basicConstraints?_of_extensions : c.basicConstraints? = some (true, none) := by
  have hof : c.extensionsOf Extension.basicConstraintsOid = [.basicConstraints true] :=
    extensionsOf_of_extensions h _
  rw [basicConstraints?, hof]
  decide

theorem keyIdentifier?_of_extensions :
    c.keyIdentifier? = some ((Sha2.sha256.digest key.octets).take 20) := by
  have hof : c.extensionsOf Extension.subjectKeyIdentifierOid = [.subjectKeyIdentifier key] :=
    extensionsOf_of_extensions h _
  have hlt : (Der.octetString ((Sha2.sha256.digest key.octets).take 20)).length < UInt64.size := by
    have hdigest : ((Sha2.sha256.digest key.octets).take 20).length ≤ 20 := List.length_take_le _ _
    have hle := Der.length_tlv_le .octetString ((Sha2.sha256.digest key.octets).take 20)
    rw [Der.octetString, UInt64.size]
    omega
  have hread := Element.takes_octetString _ hlt []
  rw [List.append_nil] at hread
  rw [keyIdentifier?, hof, List.findSome?_singleton, Extension.subjectKeyIdentifier,
    Extension.keyIdentifier, hread]
  rfl

/-- A certificate with the extensions of an authority can be loaded. -/
theorem isUsable_of_extensions : c.isUsable := by
  have hof := extensionsOf_of_extensions h
  have hunique : (uniqueExtensions.all fun oid => (c.extensionsOf oid).length ≤ 1) = true := by
    simp only [hof]
    rfl
  have husage : c.extensionsOf Extension.keyUsageOid = [.authorityKeyUsage] := hof _
  have hextended : c.extensionsOf Extension.extendedKeyUsageOid = [] := hof _
  have hsubtrees : c.extensionsOf Extension.nameConstraintsOid = [] := hof _
  have huses : (keyUses? Extension.authorityKeyUsage.value).isSome := by decide
  simp [isUsable, hunique, alternativeNames?_of_extensions h, basicConstraints?_of_extensions h,
    husage, hextended, hsubtrees, huses]

/-- The extensions of an authority are written again as they are. -/
theorem renewedExtensions_of_extensions : c.renewedExtensions key = c.extensions := by
  have hnames : c.renewedNames = [] := by
    rw [renewedNames, alternativeNames?_of_extensions h]
    rfl
  have husage : c.renewedKeyUsage = [.authorityKeyUsage] := by
    rw [renewedKeyUsage, extensionsOf_of_extensions h]
    rfl
  have hextended : c.renewedExtendedKeyUsage = [] := by
    rw [renewedExtendedKeyUsage, extensionsOf_of_extensions h]
    rfl
  have hsubtrees : c.renewedNameConstraints = [] := by
    rw [renewedNameConstraints, extensionsOf_of_extensions h]
    rfl
  have hconstraints : c.renewedConstraints key =
      [.subjectKeyIdentifier key, .basicConstraints true] := by
    rw [renewedConstraints, basicConstraints?_of_extensions h, keyIdentifier?_of_extensions h]
    rfl
  rw [renewedExtensions, hnames, husage, hextended, hsubtrees, hconstraints, h]
  rfl

end Extensions

/-- The certificate says what was to be signed, as far as it is written again. -/
structure IsReadFrom (c : Certificate) (u : UnsignedCertificate) : Prop where
  serial : c.serial = u.serial
  notBefore : c.notBefore = .ofInstant u.notBefore
  notAfter : c.notAfter = .ofInstant u.notAfter
  publicKey : Takes PublicKeyInfo.read u.publicKey.info c.publicKey
  extensions : c.extensions = u.extensions

/-- What an authority has signed for itself is written again as it was. -/
theorem IsReadFrom.encode_renewed {u : UnsignedCertificate} (h : c.IsReadFrom u)
    (positive : Der.IsPositive u.serial) (hissuer : u.issuer = u.subject)
    (hbefore : u.notBefore.nanos ≤ Instant.latest.nanos)
    (hafter : u.notAfter.nanos ≤ Instant.latest.nanos) (hextensions : u.extensions =
      [.authorityKeyUsage, .subjectKeyIdentifier u.publicKey, .basicConstraints true])
    (signatureAlgorithm : Bytes) :
    (c.renewed u.subject u.publicKey).encode signatureAlgorithm = u.encode signatureAlgorithm := by
  have hrenewed := renewedExtensions_of_extensions (h.extensions.trans hextensions)
  simp only [UnsignedCertificate.encode, renewed, h.serial, positive.unsigned_toNat, hissuer,
    h.notBefore, h.notAfter, Time.encodeTime_ofInstant hbefore, Time.encodeTime_ofInstant hafter,
    hrenewed, h.extensions]

end X509.Certificate

end NodePki
