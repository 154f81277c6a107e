import NodePki.Authority
import NodePki.Proofs.Crypto.PrivateKey
import NodePki.Proofs.X509.Renewal
import NodePki.Proofs.X509.Size
import NodePki.Proofs.Program.Run

/-!
# New authorities loaded again

An authority that was just made and one that is loaded from its texts are built in different ways.
They are the same (`CertificateAuthority.ofPem_of_generate`): the key is read back from its document,
the certificate is one that can be loaded, the name it was made for is read back as its subject, and
what is signed again is what was signed before.
-/

namespace NodePki

namespace X509

/-- The name that a certificate was made with is read back. -/
theorem DistinguishedName.ofName?_ofCommonName (text : String) :
    ofName? (Name.ofCommonName text) = some (ofCommonName text) := by
  have hvalue : DirectoryString.ofElement? (.ofOctet 12 (Utf8.encode text)) =
      some (.ofText text) := by
    have hvalid : DirectoryString.isValid 12 (Utf8.encode text) = true := by
      rw [DirectoryString.isValid, Utf8.decode?_encode]
      rfl
    exact if_pos hvalid
  have harcs : Attribute.arcs? .commonName = some [2, 5, 4, 3] := by decide
  have hoid : Oid.ofArcs [2, 5, 4, 3] = .commonName := by decide
  have hattribute : ofAttribute? ⟨.commonName, .ofOctet 12 (Utf8.encode text)⟩ =
      some (.commonName, .ofText text) := by
    simp [ofAttribute?, harcs, hoid, hvalue]
  simp [ofName?, Name.ofCommonName, hattribute]
  rfl

/-- A common name is read off the name that has only it. -/
theorem DistinguishedName.ofCommonName_injective : Function.Injective ofCommonName := by
  intro text text' h
  have hvalue : ∀ text, (ofCommonName text).attributes.get? .commonName = some (.ofText text) :=
    fun text => by rw [ofCommonName, Dict.get?_insert, if_pos rfl]
  have hencode := hvalue text
  rw [h, hvalue text', Option.some.injEq, DirectoryString.ofText, DirectoryString.ofText,
    DirectoryString.mk.injEq] at hencode
  exact (Utf8.encode_injective hencode.2).symm

end X509

namespace CertificateAuthority

/-- The certificate of an authority, before it is signed. -/
def ownCertificate (commonName : String) (key : KeyPair) (serial : Bytes)
    (notBefore notAfter : Instant) : X509.UnsignedCertificate where
  serial
  issuer := .ofCommonName commonName
  notBefore
  notAfter
  subject := .ofCommonName commonName
  publicKey := key.publicKey
  extensions := [
    .authorityKeyUsage, .subjectKeyIdentifier key.publicKey, .basicConstraints true]

variable {commonName : String} {validity : Duration} {key : KeyPair} {serial : Bytes} {now : Instant}
  {a : CertificateAuthority}

/-- The certificate in a text. -/
def certificateIn? (text : String) : Option X509.Certificate :=
  (Pem.document? text).bind fun block => X509.Certificate.ofDer? block.contents

/-- The private key in a text. -/
def keyIn? (text : String) : Option KeyPair :=
  (Pem.document? text).bind fun block => KeyPair.ofDocument? block.contents

/-- A key that is read back from its document is from its text. -/
theorem keyIn?_pem (h : KeyPair.ofDocument? key.document = some key) :
    keyIn? key.pem = some key :=
  Option.bind_eq_some_iff.2 ⟨_, KeyPair.document?_pem key, h⟩

/-- The key signs the certificate again, under the name. -/
def SignsAgain (key : KeyPair) (certificate : X509.Certificate) (issuer : X509.DistinguishedName) :
    Prop :=
  ((certificate.renewed issuer key.publicKey).sign? key.secret).isSome

instance (key : KeyPair) (certificate : X509.Certificate) (issuer : X509.DistinguishedName) :
    Decidable (SignsAgain key certificate issuer) :=
  inferInstanceAs (Decidable (_ = true))

/-- What the two texts come to of which each can be read by itself. -/
theorem ofPem_eq_ite {certificatePem keyPem : String} {certificate : X509.Certificate}
    {issuer : X509.DistinguishedName} (hkey : keyIn? keyPem = some key)
    (hread : certificateIn? certificatePem = some certificate) (husable : certificate.isUsable)
    (hissuer : X509.DistinguishedName.ofName? certificate.subject = some issuer) :
    ofPem certificatePem keyPem =
      if SignsAgain key certificate issuer then .ok ⟨issuer, key, certificatePem⟩
      else .error (.signing .signature) := by
  obtain ⟨keyBlock, hkeyBlock, hkey⟩ := Option.bind_eq_some_iff.1 hkey
  obtain ⟨block, hblock, hread⟩ := Option.bind_eq_some_iff.1 hread
  split_ifs with hsigns
  · obtain ⟨der, hsign⟩ := Option.isSome_iff_exists.1 hsigns
    simp only [ofPem, hkeyBlock, hkey, hblock, hread, husable, hissuer, hsign]
    rfl
  · have hsign := Option.not_isSome_iff_eq_none.1 hsigns
    simp only [ofPem, hkeyBlock, hkey, hblock, hread, husable, hissuer, hsign]
    rfl

/-- An authority is loaded from two texts of which each is looked at by itself: the key is that of the
one, the name and the certificate those of the other. All that they have to do with each other is that
the key signs what the certificate says. -/
theorem ofPem_eq_ok_iff {certificatePem keyPem : String} :
    ofPem certificatePem keyPem = .ok a ↔
      a.certificatePem = certificatePem ∧ keyIn? keyPem = some a.key ∧
        ∃ certificate, certificateIn? certificatePem = some certificate ∧ certificate.isUsable ∧
          X509.DistinguishedName.ofName? certificate.subject = some a.issuer ∧
          SignsAgain a.key certificate a.issuer := by
  constructor
  · intro h
    simp only [ofPem, bind, Except.bind, pure, Except.pure, throw, throwThe,
      MonadExceptOf.throw] at h
    split at h
    case h_2 => cases h
    next keyBlock hkeyBlock =>
    split at h
    case h_2 => cases h
    next key hkey =>
    split at h
    case h_2 => cases h
    next block hblock =>
    split at h
    case h_2 => cases h
    next certificate hcertificate =>
    split at h
    · cases h
    next husable =>
    split at h
    case h_2 => cases h
    next issuer hissuer =>
    split at h
    case h_2 => cases h
    next der hsign =>
    cases h
    refine ⟨rfl, Option.bind_eq_some_iff.2 ⟨keyBlock, hkeyBlock, hkey⟩, certificate,
      Option.bind_eq_some_iff.2 ⟨block, hblock, hcertificate⟩, ?_, hissuer, ?_⟩
    · simpa using husable
    · exact Option.isSome_iff_exists.2 ⟨der, hsign⟩
  · rintro ⟨rfl, hkey, certificate, hcertificate, husable, hissuer, hsigns⟩
    exact (ofPem_eq_ite hkey hcertificate husable hissuer).trans (if_pos hsigns)

/-- Authorities that are loaded with one certificate sign under one name, whatever their keys. -/
theorem issuer_eq_of_ofPem {certificatePem keyPem keyPem' : String} {a' : CertificateAuthority}
    (h : ofPem certificatePem keyPem = .ok a) (h' : ofPem certificatePem keyPem' = .ok a') :
    a.issuer = a'.issuer := by
  obtain ⟨-, -, certificate, hread, -, hissuer, -⟩ := ofPem_eq_ok_iff.1 h
  obtain ⟨-, -, certificate', hread', -, hissuer', -⟩ := ofPem_eq_ok_iff.1 h'
  rw [hread, Option.some.injEq] at hread'
  subst hread'
  rw [hissuer, Option.some.injEq] at hissuer'
  exact hissuer'

/-- The authority that signs its own certificate, if this can be signed. -/
def signOwn (commonName : String) (key : KeyPair) (serial : Bytes) (notBefore notAfter : Instant) :
    Except Error CertificateAuthority :=
  match (ownCertificate commonName key serial notBefore notAfter).sign? key.secret with
  | none => .error (.signing .signature)
  | some der => .ok ⟨.ofCommonName commonName, key, (Pem.Block.mk "CERTIFICATE" der).encode⟩

theorem selfSigned_of_window {notBefore notAfter : Instant}
    (h : Template.window? now validity = some (notBefore, notAfter)) :
    selfSigned commonName validity key serial now =
      signOwn commonName key serial notBefore notAfter := by
  rw [selfSigned, h]
  rfl

theorem selfSigned_of_late (h : Template.window? now validity = none) :
    selfSigned commonName validity key serial now = .error (.signing (.validity validity)) := by
  rw [selfSigned, h]

theorem signOwn_eq_ok_iff {notBefore notAfter : Instant} :
    signOwn commonName key serial notBefore notAfter = .ok a ↔
      ∃ der, (ownCertificate commonName key serial notBefore notAfter).sign? key.secret = some der ∧
        a = ⟨.ofCommonName commonName, key, (Pem.Block.mk "CERTIFICATE" der).encode⟩ := by
  unfold signOwn
  cases (ownCertificate commonName key serial notBefore notAfter).sign? key.secret with
  | none => simp
  | some der => simp [eq_comm]

/-- What an authority is made of that signs its own certificate. -/
theorem exists_of_selfSigned (h : selfSigned commonName validity key serial now = .ok a) :
    ∃ notBefore notAfter der, Template.window? now validity = some (notBefore, notAfter) ∧
      (ownCertificate commonName key serial notBefore notAfter).sign? key.secret = some der ∧
        a = ⟨.ofCommonName commonName, key, (Pem.Block.mk "CERTIFICATE" der).encode⟩ := by
  cases hwindow : Template.window? now validity with
  | none =>
    rw [selfSigned_of_late hwindow] at h
    cases h
  | some window =>
    rw [selfSigned_of_window hwindow] at h
    obtain ⟨der, hsign, rfl⟩ := signOwn_eq_ok_iff.1 h
    exact ⟨_, _, der, rfl, hsign, rfl⟩

/-- No certificate begins or ends to be valid too late. -/
theorem le_latest_of_window? {notBefore notAfter : Instant}
    (h : Template.window? now validity = some (notBefore, notAfter)) :
    notBefore.nanos ≤ Instant.latest.nanos ∧ notAfter.nanos ≤ Instant.latest.nanos := by
  obtain ⟨notAfter, hadd, heq⟩ := Option.map_eq_some_iff.1 h
  cases heq
  obtain ⟨hnanos, hlatest⟩ := Instant.add?_eq_some.1 hadd
  refine ⟨?_, hlatest⟩
  show now.nanos - Template.clockSkew.nanos ≤ Instant.latest.nanos
  omega

/-- The certificate of an authority is read back. -/
theorem exists_ofDer?_ownCertificate {notBefore notAfter : Instant} {der : Bytes}
    (hsign : (ownCertificate commonName key serial notBefore notAfter).sign? key.secret = some der)
    (hlt : der.length < UInt64.size) :
    ∃ certificate, certificateIn? (Pem.Block.mk "CERTIFICATE" der).encode = some certificate ∧
      certificate.IsReadFrom (ownCertificate commonName key serial notBefore notAfter) ∧
      certificate.subject = .ofCommonName commonName := by
  have hblock : Pem.document? (Pem.Block.mk "CERTIFICATE" der).encode = some ⟨"CERTIFICATE", der⟩ :=
    Pem.document?_encode (show "CERTIFICATE" ≠ "" by decide)
      (show '-' ∉ "CERTIFICATE".toList by decide)
  obtain ⟨k, kind, signature, hinfo, -, hread⟩ := X509.Certificate.exists_ofDer?_sign?
    (u := ownCertificate commonName key serial notBefore notAfter)
    (X509.Name.takes_ofCommonName commonName) (X509.isKind_keyAlgorithm key.secret) hsign hlt
  exact ⟨_, Option.bind_eq_some_iff.2 ⟨_, hblock, hread⟩, ⟨rfl, rfl, rfl, hinfo, rfl⟩, rfl⟩

/-- An authority that signed its own certificate is loaded from its texts: signing it again is signing
the same once more. -/
theorem ofPem_ownCertificate {notBefore notAfter : Instant} {der : Bytes}
    (hkey : KeyPair.ofDocument? key.document = some key) (positive : Der.IsPositive serial)
    (hbefore : notBefore.nanos ≤ Instant.latest.nanos)
    (hafter : notAfter.nanos ≤ Instant.latest.nanos)
    (hsign : (ownCertificate commonName key serial notBefore notAfter).sign? key.secret = some der)
    (hlt : der.length < UInt64.size) :
    ofPem (Pem.Block.mk "CERTIFICATE" der).encode key.pem =
      .ok ⟨.ofCommonName commonName, key, (Pem.Block.mk "CERTIFICATE" der).encode⟩ := by
  obtain ⟨certificate, hread, readFrom, hsubject⟩ := exists_ofDer?_ownCertificate hsign hlt
  have husable := X509.Certificate.isUsable_of_extensions readFrom.extensions
  have hissuer : X509.DistinguishedName.ofName? certificate.subject =
      some (.ofCommonName commonName) := by
    rw [hsubject, X509.DistinguishedName.ofName?_ofCommonName]
  have hsigns : SignsAgain key certificate (.ofCommonName commonName) := by
    have hsame := readFrom.encode_renewed positive rfl hbefore hafter rfl
      key.secret.signatureAlgorithm
    have hagain := X509.UnsignedCertificate.sign?_of_encode_eq hsame
    exact Option.isSome_iff_exists.2 ⟨der, hagain.trans hsign⟩
  exact ofPem_eq_ok_iff.2 ⟨rfl, keyIn?_pem hkey, certificate, hread, husable, hissuer, hsigns⟩

/-- A serial number is a positive number in its shortest form. -/
theorem isPositive_serialOf (serial : Vector UInt8 serialSize) :
    Der.IsPositive (serialOf serial.toList) := by
  have hfirst : ∀ n : Fin 256, max (UInt8.ofNat n &&& 0x7f) 1 ≠ 0 ∧
      max (UInt8.ofNat n &&& 0x7f) 1 < 0x80 := by decide +kernel
  have hlength : serial.toList.length = serialSize := by simp
  cases hserial : serial.toList with
  | nil => rw [hserial] at hlength; cases hlength
  | cons b bs =>
    have hb := hfirst ⟨b.toNat, b.toNat_lt⟩
    rw [UInt8.ofNat_toNat] at hb
    exact ⟨_, bs, rfl, hb⟩

theorem length_serialOf (serial : Vector UInt8 serialSize) :
    (serialOf serial.toList).length = serialSize := by
  have hlength : serial.toList.length = serialSize := by simp
  cases hserial : serial.toList with
  | nil => rw [hserial] at hlength; cases hlength
  | cons b bs => rw [hserial] at hlength; exact hlength

/-- The extensions of an authority are short. -/
theorem length_ownExtensions_le (key : KeyPair) :
    (([.authorityKeyUsage, .subjectKeyIdentifier key.publicKey, .basicConstraints true] :
      List X509.Extension).map X509.Extension.encode).flatten.length ≤ 300 := by
  have husage : X509.Extension.authorityKeyUsage.encode.length ≤ 40 := by decide
  have hconstraints : (X509.Extension.basicConstraints true).encode.length ≤ 40 := by decide
  have hidentifier := (X509.Extension.subjectKeyIdentifier key.publicKey).length_encode_le
  have hoid : (X509.Extension.subjectKeyIdentifier key.publicKey).oid.content.length = 3 := rfl
  have hdigest : ((Sha2.sha256.digest key.publicKey.octets).take 20).length ≤ 20 :=
    List.length_take_le _ _
  have hvalue := Der.length_tlv_le .octetString ((Sha2.sha256.digest key.publicKey.octets).take 20)
  have hvalue : (X509.Extension.subjectKeyIdentifier key.publicKey).value.length ≤ 43 :=
    Nat.le_trans hvalue (by omega)
  simp only [List.map_cons, List.map_nil, List.flatten_cons, List.flatten_nil, List.length_append,
    List.length_nil]
  omega

/-- The public key of a new authority is short. -/
theorem length_info_ofEntropy_le (entropy : Bytes) :
    (KeyPair.ofEntropy entropy).publicKey.info.length ≤ 487 := by
  have hinfo := X509.length_info_le (KeyPair.ofEntropy entropy).publicKey
  have halgorithm : (KeyPair.ofEntropy entropy).publicKey.algorithm.length ≤ 19 :=
    KeyPair.length_keyAlgorithm_le .p256 (KeyPair.secretOfEntropy .p256 entropy)
  have hoctets : (KeyPair.ofEntropy entropy).publicKey.octets.length ≤ 97 :=
    KeyPair.length_publicKey_le .p256 (KeyPair.secretOfEntropy .p256 entropy)
  omega

/-- The certificate of a new authority can be counted in 64 bits, if its name is not very long. -/
theorem length_lt_of_sign? {entropy : Bytes} {notBefore notAfter : Instant} {der : Bytes}
    (hserial : serial.length = serialSize) (hname : (Utf8.encode commonName).length < UInt32.size)
    (hsign : (ownCertificate commonName (.ofEntropy entropy) serial notBefore notAfter).sign?
      (KeyPair.ofEntropy entropy).secret = some der) : der.length < UInt64.size := by
  obtain ⟨signature, hsignature, hder⟩ :=
    X509.UnsignedCertificate.exists_length_le_of_sign? hsign
  have hsignature := Ecdsa.length_le_of_sign? (c := .p256) hsignature
  have hbody := X509.UnsignedCertificate.length_encode_le
    (ownCertificate commonName (.ofEntropy entropy) serial notBefore notAfter)
    (KeyPair.ofEntropy entropy).secret.signatureAlgorithm
  generalize (X509.UnsignedCertificate.encode _ _).length = body at hder hbody
  have hdn := X509.DistinguishedName.length_encode_ofCommonName_le commonName
  have hkind : (KeyPair.ofEntropy entropy).secret.signatureAlgorithm.length = 12 := by
    show (SecretKey.ecdsa .p256 0).signatureAlgorithm.length = 12
    decide
  have hinfo := length_info_ofEntropy_le entropy
  have hextensions := length_ownExtensions_le (.ofEntropy entropy)
  simp only [ownCertificate, hserial, serialSize] at hbody
  simp only [UInt32.size, UInt64.size] at hname ⊢
  omega

/-- The answers of which an authority is made: the random octets of its key and of the serial number of
its certificate, and the time of the day. -/
theorem exists_of_leads_generate {u : Trace Surroundings} {r : Except Error CertificateAuthority}
    (h : Program.Leads (generate commonName validity) u (.done r)) :
    ∃ (entropy : Vector UInt8 KeyPair.entropySize) (serial : Vector UInt8 serialSize) (now : Instant)
      (rest : Trace Surroundings),
      u = ⟨.random _, entropy⟩ :: ⟨.random _, serial⟩ :: ⟨.now, now⟩ :: rest ∧
      r = selfSigned commonName validity (.ofEntropy entropy.toList) (serialOf serial.toList) now := by
  obtain _ | @⟨_, _, entropy, _, _, h⟩ := h
  obtain _ | @⟨_, _, serial, _, _, h⟩ := h
  obtain _ | @⟨_, _, now, rest, _, h⟩ := h
  refine ⟨entropy, serial, now, rest, rfl, ?_⟩
  obtain ⟨e, hself, -, rfl⟩ | ⟨a, hself, h⟩ := Program.Leads.of_check h
  · exact hself.symm
  · obtain _ | ⟨⟨⟩⟩ := h
    exact hself.symm

/-- With these answers the making of a new authority comes to this end. -/
def Generates (commonName : String) (validity : Duration) (entropy : Vector UInt8 KeyPair.entropySize)
    (serial : Vector UInt8 serialSize) (now : Instant) (r : Except Error CertificateAuthority) : Prop :=
  ∃ rest, Program.Leads (generate commonName validity)
    (⟨.random _, entropy⟩ :: ⟨.random _, serial⟩ :: ⟨.now, now⟩ :: rest) (.done r)

/-- The answers determine the end. -/
theorem generates_iff {entropy : Vector UInt8 KeyPair.entropySize} {serial : Vector UInt8 serialSize}
    {r : Except Error CertificateAuthority} :
    Generates commonName validity entropy serial now r ↔
      r = selfSigned commonName validity (.ofEntropy entropy.toList) (serialOf serial.toList) now := by
  constructor
  · rintro ⟨rest, h⟩
    obtain ⟨_, _, _, _, htrace, rfl⟩ := exists_of_leads_generate h
    obtain ⟨⟨⟩, ⟨⟩, ⟨⟩, -⟩ := by simpa using htrace
    rfl
  · intro hself
    cases r with
    | error e => exact ⟨_, .ask <| .ask <| .ask <| Program.leads_check_error hself.symm⟩
    | ok a =>
      exact ⟨_, .ask <| .ask <| .ask <| Program.leads_check hself.symm <|
        Program.leads_perform () <| .refl _⟩

/-- An authority is generated if the random octets and the time of the day serve to make it. -/
theorem exists_leads_generate (entropy : Vector UInt8 KeyPair.entropySize)
    (serial : Vector UInt8 serialSize)
    (h : selfSigned commonName validity (.ofEntropy entropy.toList) (serialOf serial.toList) now =
      .ok a) : ∃ u, Program.Leads (generate commonName validity) u (.done (.ok a)) := by
  obtain ⟨rest, hrun⟩ := generates_iff.2 h.symm
  exact ⟨_, hrun⟩

/-- Of octets that are all zero, on 1 January 2025, an authority can be made. -/
theorem exists_selfSigned_blank : ∃ a, selfSigned "demo-ca" (.ofSeconds 86400)
    (.ofEntropy (Vector.replicate KeyPair.entropySize 0).toList)
    (serialOf (Vector.replicate serialSize 0).toList) (.ofSeconds 1735689600) = .ok a := by
  refine (exists_ok_of_any (p := fun _ => true) ?_).imp fun _ h => h.1
  decide +kernel

/-- What a new authority is loaded back to: itself. -/
theorem ofPem_of_generate {u : Trace Surroundings}
    (h : Program.Leads (generate commonName validity) u (.done (.ok a)))
    (hname : (Utf8.encode commonName).length < UInt32.size) :
    a.issuer = .ofCommonName commonName ∧ ofPem a.certificatePem a.keyPem = .ok a := by
  obtain ⟨entropy, serial, now, rest, -, hself⟩ := exists_of_leads_generate h
  obtain ⟨notBefore, notAfter, der, hwindow, hsign, rfl⟩ := exists_of_selfSigned hself.symm
  obtain ⟨hbefore, hafter⟩ := le_latest_of_window? hwindow
  have hlt := length_lt_of_sign? (length_serialOf serial) hname hsign
  exact ⟨rfl, ofPem_ownCertificate (KeyPair.ofDocument?_ofEntropy entropy.toList)
    (isPositive_serialOf serial) hbefore hafter hsign hlt⟩

end CertificateAuthority

end NodePki
