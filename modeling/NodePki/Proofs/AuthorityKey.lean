import NodePki.Proofs.Authority
import NodePki.Proofs.ReadBack

/-!
# The key of an authority and that of its certificate

An authority signs with its key, and its certificate is what a chain ends with. Both are loaded by
themselves, so every key that can sign goes with any certificate (`CertificateAuthority.ofPem_of_key`,
`CertificateAuthority.signsAgain_of_canSign`).
If the certificate is for the key (`CertificateAuthority.IsConsistent`), all that is signed verifies
under it (`CertificateAuthority.verifies_of_leads`), by whatever verifier that accepts what the key
signs. An authority that signed its own certificate is consistent
(`CertificateAuthority.isConsistent_of_generate`).
-/

namespace NodePki

/-- The key signs whatever it is to sign. -/
def KeyPair.CanSign (key : KeyPair) : Prop := ∀ message, (key.secret.sign? message).isSome

theorem KeyPair.canSign_of_ed25519 {key : KeyPair} {seed : Bytes} (h : key.secret = .ed25519 seed) :
    key.CanSign := by
  intro message
  rw [h]
  rfl

namespace X509

/-- Whether a signature of a kind is one of a message, under a public key. -/
abbrev Verifier := PublicKeyInfo → (kind message signature : Bytes) → Prop

/-- A verifier accepts what a key signs, under its public key as it is read. -/
def Verifier.Accepts (verify : Verifier) (key : KeyPair) : Prop :=
  ∀ info message signature, Reader.within PublicKeyInfo.read key.publicKey.info = some info →
    key.secret.sign? message = some signature →
      verify info key.secret.signatureAlgorithm message signature

namespace Certificate

/-- The certificate is for the public key of a pair. -/
def HasKey (c : Certificate) (key : KeyPair) : Prop :=
  Reader.within PublicKeyInfo.read key.publicKey.info = some c.publicKey

/-- The octets are a certificate that is issued in the name of the subject of this one, and its
signature verifies under the key of this one. -/
def Verifies (c : Certificate) (verify : Verifier) (der : Bytes) : Prop :=
  ∃ (u : UnsignedCertificate) (kind signature : Bytes),
    der = Der.sequence [u.encode kind, kind, Der.bitString 0 signature] ∧
      DistinguishedName.ofName? c.subject = some u.issuer ∧
      verify c.publicKey kind (u.encode kind) signature

end Certificate

end X509

namespace CertificateAuthority

/-- The certificate of the authority is for the key that it signs with. -/
def IsConsistent (a : CertificateAuthority) : Prop :=
  ∃ certificate, certificateIn? a.certificatePem = some certificate ∧ certificate.HasKey a.key

variable {a : CertificateAuthority} {certificatePem keyPem : String} {verify : X509.Verifier}
  {certificate : X509.Certificate} {t : Template PublicKey} {signed : SignedCertificate}

theorem signsAgain_of_canSign {key : KeyPair} {issuer : X509.DistinguishedName} (h : key.CanSign) :
    SignsAgain key certificate issuer := by
  have hsome := h ((certificate.renewed issuer key.publicKey).encode key.secret.signatureAlgorithm)
  obtain ⟨signature, hsign⟩ := Option.isSome_iff_exists.1 hsome
  exact Option.isSome_iff_exists.2 ⟨_, Option.bind_eq_some_iff.2 ⟨signature, hsign, rfl⟩⟩

/-- A certificate that was loaded with one key is loaded with any other that signs it again, and
refused with the rest, for what they sign. -/
theorem ofPem_of_key (h : ofPem certificatePem keyPem = .ok a) :
    ∃ certificate, certificateIn? certificatePem = some certificate ∧
      ∀ keyPem' key, keyIn? keyPem' = some key → ofPem certificatePem keyPem' =
        if SignsAgain key certificate a.issuer then .ok { a with key }
        else .error (.signing .signature) := by
  obtain ⟨rfl, -, certificate, hread, husable, hissuer, -⟩ := ofPem_eq_ok_iff.1 h
  exact ⟨certificate, hread, fun keyPem' key hkey => ofPem_eq_ite hkey hread husable hissuer⟩

/-! ### Signing -/

theorem verifies_of_signWith {serial : Bytes}
    (named : X509.DistinguishedName.ofName? certificate.subject = some a.issuer)
    (hkey : certificate.HasKey a.key) (accepts : verify.Accepts a.key)
    (h : a.signWith serial t = .ok signed) : certificate.Verifies verify signed.der := by
  obtain ⟨key, -, -, hsign⟩ := exists_sign?_of_signWith h
  obtain ⟨signature, hsignature, hder⟩ := Option.bind_eq_some_iff.1 hsign
  exact ⟨_, _, signature, (Option.some.inj hder).symm, named, accepts _ _ _ hkey hsignature⟩

/-- What an authority hands out verifies under a certificate: the certificates that it signs, and the
chains that it issues, each of such a certificate and its own. -/
structure Verifies (a : CertificateAuthority) (verify : X509.Verifier)
    (certificate : X509.Certificate) : Prop where
  signs : ∀ t u signed, Program.Leads (a.sign t) u (.done (.ok signed)) →
    certificate.Verifies verify signed.der
  issues : ∀ id services validity u issued,
    Program.Leads (a.issue id services validity) u (.done (.ok issued)) →
      ∃ signed : SignedCertificate, certificate.Verifies verify signed.der ∧
        issued.certificateChainPem = withNewline signed.pem ++ a.certificatePem

theorem verifies_of_consistent (loaded : ofPem certificatePem keyPem = .ok a)
    (consistent : a.IsConsistent) (accepts : verify.Accepts a.key) :
    ∃ certificate, certificateIn? certificatePem = some certificate ∧
      a.Verifies verify certificate := by
  obtain ⟨rfl, -, certificate, hread, -, named, -⟩ := ofPem_eq_ok_iff.1 loaded
  obtain ⟨certificate', hread', hkey⟩ := consistent
  rw [hread, Option.some.injEq] at hread'
  subst hread'
  refine ⟨certificate, hread, ⟨?_, ?_⟩⟩
  · intro t u signed hleads
    obtain ⟨serial, hsigned⟩ := (a.along_sign t).ends hleads signed rfl
    exact verifies_of_signWith named hkey accepts hsigned
  · intro id services validity u issued hleads
    obtain ⟨serial, t, signed, hsigned, hchain⟩ :=
      (a.along_issue id services validity).ends hleads issued rfl
    exact ⟨signed, verifies_of_signWith named hkey accepts hsigned, hchain⟩

/-! ### New authorities -/

/-- A certificate that was signed with its own key is for that key. -/
theorem isConsistent_ownCertificate {commonName : String} {key : KeyPair} {serial der : Bytes}
    {notBefore notAfter : Instant}
    (hsign : (ownCertificate commonName key serial notBefore notAfter).sign? key.secret = some der)
    (hlt : der.length < UInt64.size) (hinfo : key.publicKey.info.length < UInt64.size) :
    IsConsistent ⟨.ofCommonName commonName, key, (Pem.Block.mk "CERTIFICATE" der).encode⟩ := by
  obtain ⟨certificate, hread, readFrom, -⟩ := exists_ofDer?_ownCertificate hsign hlt
  exact ⟨certificate, hread, readFrom.publicKey.finds hinfo⟩

/-- A new authority is consistent. -/
theorem isConsistent_of_generate {commonName : String} {validity : Duration} {u : Trace Surroundings}
    (h : Program.Leads (generate commonName validity) u (.done (.ok a)))
    (hname : (Utf8.encode commonName).length < UInt32.size) : a.IsConsistent := by
  obtain ⟨entropy, serial, now, rest, -, hself⟩ := exists_of_leads_generate h
  obtain ⟨notBefore, notAfter, der, -, hsign, rfl⟩ := exists_of_selfSigned hself.symm
  have hinfo := Nat.lt_of_le_of_lt (length_info_ofEntropy_le entropy.toList)
    (show 487 < UInt64.size by decide)
  exact isConsistent_ownCertificate hsign (length_lt_of_sign? (length_serialOf serial) hname hsign)
    hinfo

end CertificateAuthority

end NodePki
