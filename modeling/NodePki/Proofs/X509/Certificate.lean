import NodePki.Proofs.X509.Time
import NodePki.Text.Utf8.Lemmas

/-!
# Reading written certificates

A signed certificate is read back (`Certificate.exists_ofDer?_sign?`): what it says is what was to be
signed (`Certificate.ofUnsigned`). Names are read as far as they go, so that any issuer can be read;
a subject with a common name shows it (`Name.commonName?_ofCommonName`).
-/

namespace NodePki.X509

open Der (Tag tlv tlvOf)

/-! ## Names -/

theorem Attribute.takes_read (oid : Oid) {b : UInt8} (hb : b.toNat % 32 ≠ 31) (content : Bytes) :
    Takes read (tlv .sequence (tlv .objectIdentifier oid.content ++ tlvOf b content))
      ⟨oid, .ofOctet b content⟩ := by
  refine Element.takes_sequence ?_
  refine (Element.takes_objectIdentifier oid.content).finds_bind (Takes.finds ?_)
  exact (Element.takes_read hb content).bind_nil (takes_pure _)

namespace Name

/-- The name with a content. -/
def ofContent (content : Bytes) : Name := ⟨Reader.some? readGroup content⟩

theorem takes_read (content : Bytes) : Takes read (tlv .sequence content) (ofContent content) :=
  Element.takes_sequence fun _ => rfl

theorem takes_readGroup {a : Attribute} {x : Bytes} (h : Takes Attribute.read x a) :
    Takes readGroup (tlv .set x) [a] := by
  refine Element.takes_container (b := Tag.set.octet) rfl (by decide) fun hlt => ?_
  rw [Reader.within, some?_of_takes rfl h hlt]
  rfl

end Name

theorem Name.takes_distinguishedName (n : DistinguishedName) :
    Takes read n.encode (ofContent n.content) :=
  takes_read n.content

theorem content_ofCommonName (text : String) :
    (DistinguishedName.ofCommonName text).content =
      tlv .set (tlv .sequence
        (tlv .objectIdentifier Oid.commonName.content ++ tlvOf 12 (Utf8.encode text))) := by
  have hentries : (DistinguishedName.ofCommonName text).attributes.entries =
      [(Oid.commonName, .ofText text)] := rfl
  simp [DistinguishedName.content, hentries, Der.set, Der.sequence, Der.objectIdentifier,
    DirectoryString.encode, DirectoryString.ofText]

/-- The name with one common name. -/
def Name.ofCommonName (text : String) : Name :=
  ⟨[[⟨.commonName, .ofOctet 12 (Utf8.encode text)⟩]]⟩

theorem Name.takes_ofCommonName (text : String) :
    Takes read (DistinguishedName.ofCommonName text).encode (ofCommonName text) := by
  have hread := Attribute.takes_read .commonName (b := 12) (by decide) (Utf8.encode text)
  refine Element.takes_sequence fun hlt => ?_
  have hgroup := some?_of_takes rfl (takes_readGroup hread)
  rw [← content_ofCommonName] at hgroup
  exact congrArg (fun groups => some (Name.mk groups)) (hgroup hlt)

@[simp] theorem Name.commonName?_ofCommonName (text : String) :
    (ofCommonName text).commonName? = some text :=
  Utf8.decode?_encode text

/-! ## Kinds and keys -/

/-- The octets are the content of a kind of keys or signatures: an identifier, perhaps with one value
more. -/
inductive IsKind : Bytes → Prop
  | plain (oid : Bytes) : IsKind (tlv .objectIdentifier oid)
  | given (oid : Bytes) (t : Tag) (content : Bytes) :
      IsKind (tlv .objectIdentifier oid ++ tlv t content)

theorem isKind_keyAlgorithm (key : SecretKey) : IsKind key.keyAlgorithm := by
  cases key with
  | ecdsa curve _ => exact .given ..
  | ed25519 _ => exact .plain _
  | rsa _ => exact .given ..

theorem exists_signatureAlgorithm_eq (key : SecretKey) :
    ∃ kind, IsKind kind ∧ key.signatureAlgorithm = tlv .sequence kind := by
  cases key with
  | ecdsa curve _ => exact ⟨_, .plain _, by simp [SecretKey.signatureAlgorithm, Der.sequence]; rfl⟩
  | ed25519 _ => exact ⟨_, .plain _, by simp [SecretKey.signatureAlgorithm, Der.sequence]; rfl⟩
  | rsa _ => exact ⟨_, .given .., by simp [SecretKey.signatureAlgorithm, Der.sequence]; rfl⟩

theorem exists_takes_kind {kind : Bytes} (h : IsKind kind) :
    ∃ a, Takes Algorithm.read (tlv .sequence kind) a := by
  cases h with
  | plain oid =>
    refine ⟨⟨⟨oid⟩, none⟩, Element.takes_sequence ?_⟩
    rw [← List.append_nil (tlv .objectIdentifier oid)]
    exact (Element.takes_objectIdentifier oid).finds_bind fun _ => rfl
  | given oid t content =>
    refine ⟨⟨⟨oid⟩, some (.ofTag t content)⟩, Element.takes_sequence ?_⟩
    refine (Element.takes_objectIdentifier oid).finds_bind fun hlt => ?_
    have hheader := Element.header_tlv hlt []
    have hread := Element.takes_tlv t content hlt []
    rw [List.append_nil] at hheader hread
    rw [Reader.within, hheader]
    dsimp only
    rw [hread]
    rfl

theorem exists_takes_key {key : PublicKey} (h : IsKind key.algorithm) :
    ∃ k, Takes PublicKeyInfo.read key.info k := by
  obtain ⟨a, ha⟩ := exists_takes_kind h
  refine ⟨⟨a, 0, key.octets⟩, ?_⟩
  have hinfo : key.info = tlv .sequence (tlv .sequence key.algorithm ++ Der.bitString 0 key.octets) := by
    simp [PublicKey.info, Der.sequence]
  rw [hinfo]
  refine Element.takes_sequence (ha.finds_bind (Takes.finds ?_))
  exact (Element.takes_bitString _).bind_nil (takes_pure _)

/-! ## Extensions -/

namespace Extension

/-- The mark of an extension that is critical. -/
theorem takes_readCritical : Takes readCritical Der.booleanTrue true := by
  intro hlt rest
  have hread : Element.expect Element.booleanNumber (Der.booleanTrue ++ rest) =
      some (.ofTag .boolean [0xff], rest) :=
    Element.takes_expect (b := Tag.boolean.octet) rfl (by decide) [0xff] hlt rest
  rw [readCritical, hread]
  rfl

/-- The mark is missing where the value follows. -/
theorem readCritical_octetString {value : Bytes}
    (h : (Der.octetString value).length < UInt64.size) :
    readCritical (Der.octetString value) = some (false, Der.octetString value) := by
  have hread := Element.takes_tlv .octetString value h []
  rw [List.append_nil] at hread
  have hexpect : Element.expect Element.booleanNumber (Der.octetString value) = none := by
    rw [Element.expect, bind_apply, Der.octetString, hread]
    rfl
  rw [readCritical, hexpect]

theorem takes_encode (e : Extension) : Takes read e.encode e := by
  obtain ⟨⟨oid⟩, critical, value⟩ := e
  have hvalue : Takes (do
      let e ← Element.expect Element.octetStringNumber
      if e.constructed then fun _ => none
        else return (⟨⟨oid⟩, critical, e.content⟩ : Extension) : Reader Extension)
      (Der.octetString value) ⟨⟨oid⟩, critical, value⟩ :=
    (Element.takes_octetString value).bind_nil (takes_pure _)
  have hcontent : Extension.encode ⟨⟨oid⟩, critical, value⟩ = tlv .sequence
      (tlv .objectIdentifier oid ++
        ((if critical then Der.booleanTrue else []) ++ Der.octetString value)) := by
    cases critical <;> simp [Extension.encode, Der.sequence, Der.objectIdentifier]
  rw [hcontent]
  refine Element.takes_sequence ((Element.takes_objectIdentifier oid).finds_bind ?_)
  cases critical with
  | true => exact takes_readCritical.finds_bind hvalue.finds
  | false =>
    exact finds_bind_of_peek (a := false) readCritical_octetString hvalue.finds

theorem encodeList_of_ne_nil {es : List Extension} (h : es ≠ []) :
    encodeList es = tlv (.contextConstructed 3) (Der.sequence (es.map encode)) :=
  if_neg (by simpa using h)

/-- The list of extensions in its wrapper. -/
theorem finds_readList (es : List Extension) : Finds readList (encodeList es) es := by
  by_cases hnil : es = []
  · subst hnil
    exact fun _ => rfl
  rw [encodeList_of_ne_nil hnil]
  intro hlt
  have hinner : (Der.sequence (es.map encode)).length < UInt64.size :=
    Element.length_lt_of_tlvOf hlt
  have hheader := Element.header_tlv hlt []
  rw [List.append_nil] at hheader
  have hexpect : Element.expect Element.sequenceNumber (Der.sequence (es.map encode) ++ []) =
      some (.ofTag .sequence (es.map encode).flatten, []) :=
    Element.takes_expect (b := Tag.sequence.octet) rfl (by decide) _ hinner []
  have hall : Reader.all? read (es.map encode).flatten = some (es.map id) := by
    rw [← List.flatMap_def]
    refine all?_flatMap rfl (fun e _ => takes_encode e) ?_
    rw [List.flatMap_def]
    exact Element.length_lt_of_tlvOf hinner
  rw [List.map_id] at hall
  have hnonempty :
      (tlv (.contextConstructed 3) (Der.sequence (es.map encode))).isEmpty = false := rfl
  have hnumber :
      (Element.ofTag (.contextConstructed 3) (Der.sequence (es.map encode))).number = 3 := rfl
  simp only [Reader.within, readList, hnonempty, hheader, hnumber, hexpect, Element.content_ofTag,
    hall, Option.bind_eq_bind, Option.bind_some]
  rfl

end Extension

/-! ## Certificates -/

/-- A certificate is signed as it is written. -/
theorem UnsignedCertificate.sign?_of_encode_eq {u u' : UnsignedCertificate} {key : SecretKey}
    (h : u.encode key.signatureAlgorithm = u'.encode key.signatureAlgorithm) :
    u.sign? key = u'.sign? key := by
  rw [sign?, sign?, h]

namespace Certificate

/-- The certificate that says what was to be signed, with subject and key as they are read, and with
a signature. -/
def ofUnsigned (u : UnsignedCertificate) (subject : Name) (publicKey : PublicKeyInfo)
    (signatureAlgorithm : Algorithm) (signature : Bytes) : Certificate where
  version := 2
  serial := u.serial
  issuer := .ofContent u.issuer.content
  notBefore := .ofInstant u.notBefore
  notAfter := .ofInstant u.notAfter
  subject
  publicKey
  extensions := u.extensions
  signatureAlgorithm
  signature

theorem takes_readVersion : Takes readVersion (tlv (.contextConstructed 0) (Der.natural 2)) 2 := by
  intro hlt rest
  have hread := Element.takes_tlv _ _ hlt rest
  simp only [readVersion, hread, Option.bind_eq_bind, Option.bind_some]
  rfl

/-- The wrapper of the extensions is no unique identifier. -/
theorem readUniqueId_encodeList {number : Nat} (h : number ≠ 3) {es : List Extension}
    (hlt : (Extension.encodeList es).length < UInt64.size) :
    readUniqueId number (Extension.encodeList es) = some ((), Extension.encodeList es) := by
  by_cases hnil : es = []
  · subst hnil
    rfl
  rw [Extension.encodeList_of_ne_nil hnil] at hlt ⊢
  have hread := Element.takes_tlv _ _ hlt []
  rw [List.append_nil] at hread
  have hnonempty :
      (tlv (.contextConstructed 3) (Der.sequence (es.map Extension.encode))).isEmpty = false := rfl
  have hnumber : (Element.ofTag (.contextConstructed 3)
      (Der.sequence (es.map Extension.encode))).number = 3 := rfl
  simp [readUniqueId, hread, hnonempty, hnumber, h.symm]

theorem exists_takes_readSigned {u : UnsignedCertificate} {subject : Name}
    (hsubject : Takes Name.read u.subject.encode subject) (h : IsKind u.publicKey.algorithm)
    (key : SecretKey) :
    ∃ k, Takes PublicKeyInfo.read u.publicKey.info k ∧
      Takes readSigned (u.encode key.signatureAlgorithm) (ofUnsigned u subject k) := by
  obtain ⟨kind, hkind, hsignature⟩ := exists_signatureAlgorithm_eq key
  obtain ⟨a, ha⟩ := exists_takes_kind hkind
  obtain ⟨k, hk⟩ := exists_takes_key h
  refine ⟨k, hk, ?_⟩
  have hencode : u.encode key.signatureAlgorithm = tlv .sequence
      (tlv (.contextConstructed 0) (Der.natural 2) ++ (tlv .integer u.serial ++
        (tlv .sequence kind ++ (u.issuer.encode ++
          (tlv .sequence (encodeTime u.notBefore ++ encodeTime u.notAfter) ++
            (u.subject.encode ++ (u.publicKey.info ++ Extension.encodeList u.extensions))))))) := by
    simp [UnsignedCertificate.encode, Der.sequence, hsignature]
  have hvalidity : Takes (Element.sequence do
        let notBefore ← Time.read
        let notAfter ← Time.read
        return (notBefore, notAfter))
      (tlv .sequence (encodeTime u.notBefore ++ encodeTime u.notAfter))
      (Time.ofInstant u.notBefore, Time.ofInstant u.notAfter) :=
    Element.takes_sequence <| (Time.takes_encodeTime _).finds_bind <| Takes.finds <|
      (Time.takes_encodeTime _).bind_nil (takes_pure _)
  rw [hencode]
  refine Element.takes_sequence ?_
  refine takes_readVersion.finds_bind ?_
  refine (Element.takes_readOpen (Element.octet_mod_ne .integer) u.serial).finds_bind ?_
  refine ha.finds_bind ?_
  refine (Name.takes_distinguishedName u.issuer).finds_bind ?_
  refine hvalidity.finds_bind ?_
  refine hsubject.finds_bind ?_
  refine hk.finds_bind ?_
  refine finds_bind_of_peek (readUniqueId_encodeList (by decide)) ?_
  refine finds_bind_of_peek (readUniqueId_encodeList (by decide)) ?_
  exact (Extension.finds_readList u.extensions).bind_pure _

/-- A signed certificate is read back. -/
theorem exists_ofDer?_sign? {u : UnsignedCertificate} {subject : Name} {key : SecretKey}
    {der : Bytes} (hsubject : Takes Name.read u.subject.encode subject)
    (h : IsKind u.publicKey.algorithm) (hsign : u.sign? key = some der)
    (hlt : der.length < UInt64.size) :
    ∃ k a signature, Takes PublicKeyInfo.read u.publicKey.info k ∧
      key.sign? (u.encode key.signatureAlgorithm) = some signature ∧
      ofDer? der = some (ofUnsigned u subject k a signature) := by
  obtain ⟨k, hinfo, hk⟩ := exists_takes_readSigned hsubject h key
  obtain ⟨kind, hkind, hkey⟩ := exists_signatureAlgorithm_eq key
  obtain ⟨a, ha⟩ := exists_takes_kind hkind
  obtain ⟨signature, hsignature, hder⟩ := Option.bind_eq_some_iff.1 hsign
  refine ⟨k, a, signature, hinfo, hsignature, ?_⟩
  have hencode : der = tlv .sequence (u.encode key.signatureAlgorithm ++
      (tlv .sequence kind ++ Der.bitString 0 signature)) := by
    rw [← Option.some.inj hder, ← hkey]
    simp [Der.sequence]
  rw [hencode] at hlt ⊢
  refine Takes.finds (Element.takes_sequence ?_) hlt
  refine hk.finds_bind (ha.finds_bind (Takes.finds ?_))
  exact (Element.takes_bitString signature).bind_nil (takes_pure _)

end Certificate

end NodePki.X509
