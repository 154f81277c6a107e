import NodePki.Authority
import NodePki.Proofs.Program.Run
import NodePki.Proofs.Summary
import NodePki.Proofs.Template
import NodePki.Proofs.X509.Certificate

/-!
# Certificates read back

What a node's certificate says when it is read again is what it was built from: the names of the
node and of its services, and their addresses (`ofDer_sign`). The way goes from the checks of the
template over both writers, that of the names and that of the certificate, to both readers.
-/

namespace NodePki

open Der (maxLength)

namespace Template

variable {κ : Type} (t : Template κ)

theorem otherNames_generalNames : GeneralName.otherNames t.generalNames = [t.otherName] := by
  simp [GeneralName.otherNames, generalNames, List.filterMap_map]

theorem dnsNames_generalNames : GeneralName.dnsNames t.generalNames = t.dnsNames := by
  simp [GeneralName.dnsNames, generalNames, List.filterMap_map]

theorem ipAddresses_generalNames : GeneralName.ipAddresses t.generalNames = t.ipAddresses := by
  simp [GeneralName.ipAddresses, generalNames, List.filterMap_map]

variable {t} {id : NodeIdentity} {services : List ServiceEndpoint}

/-- The names of a template for a node are written, unless they are too long. -/
theorem IsFor.writes (h : t.IsFor id services) :
    Writes (GeneralName.encodeAll t.generalNames) (GeneralName.octets t.generalNames) := by
  refine GeneralName.writes_encodeAll (by simp [generalNames]) fun g hg => ?_
  cases g with
  | dnsName name =>
    have hname : name ∈ t.dnsNames := by simpa [generalNames] using hg
    exact h.legal name hname
  | _ => trivial

end Template

/-- The summary says who a node is, and names and addresses of the node and of its services. -/
structure CertificateSummary.Describes (s : CertificateSummary) (id : NodeIdentity)
    (services : List ServiceEndpoint) : Prop where
  commonName : s.commonName = some id.canonicalName
  dnsNames : s.dnsNames = id.podName :: services.flatMap fun v => [v.name, v.qualifiedName]
  ipAddresses : Template.AreAddresses id services s.ipAddresses
  otherNames : s.otherNames = [⟨.commonName, id.canonicalName⟩]

namespace CertificateAuthority

variable {a : CertificateAuthority} {t : Template PublicKey} {signed : SignedCertificate}

/-- A template is signed under a serial number made of random octets. -/
theorem along_sign (a : CertificateAuthority) (t : Template PublicKey) :
    Program.Along (fun _ _ => True)
      (fun _ r => ∀ signed, r = .ok signed → ∃ serial, a.signWith serial t = .ok signed) []
      (a.sign t) := by
  have failed : ∀ (_ : Trace Surroundings) (e : Error) (signed : SignedCertificate),
      Except.error e = .ok signed → ∃ serial, a.signWith serial t = .ok signed :=
    fun _ _ _ h => nomatch h
  refine Program.along_any failed fun _ serial => ?_
  refine Program.along_check (fun e _ signed h => nomatch h) fun signed hsigned => ?_
  refine Program.along_any failed fun _ _ => Program.along_return ?_
  rintro _ ⟨⟩
  exact ⟨_, hsigned⟩

/-- A chain that is issued is a certificate that the authority signed, and its own. -/
theorem along_issue (a : CertificateAuthority) (id : NodeIdentity)
    (services : List ServiceEndpoint) (validity : Duration) :
    Program.Along (fun _ _ => True)
      (fun _ r => ∀ issued, r = .ok issued → ∃ serial t signed, a.signWith serial t = .ok signed ∧
        issued.certificateChainPem = withNewline signed.pem ++ a.certificatePem) []
      (a.issue id services validity) := by
  have failed : ∀ (_ : Trace Surroundings) (e : Error) (issued : IssuedCertificate),
      Except.error e = .ok issued → ∃ serial t signed, a.signWith serial t = .ok signed ∧
        issued.certificateChainPem = withNewline signed.pem ++ a.certificatePem :=
    fun _ _ _ h => nomatch h
  refine Program.along_any failed fun _ entropy => ?_
  refine Program.along_any failed fun _ now => ?_
  refine Program.along_any failed fun u t => ?_
  refine Program.along_try (Program.along_iff_nil.2 ?_)
  refine (a.along_sign t).mono (fun _ _ _ => trivial) fun u' r signs => ?_
  cases r with
  | error e => exact failed u' e
  | ok signed =>
    refine Program.along_return ?_
    intro issued h
    obtain ⟨serial, hsigned⟩ := signs signed rfl
    rw [← Except.ok.inj h]
    exact ⟨serial, t, signed, hsigned, rfl⟩

/-- A run of the authority, for each serial number. -/
theorem exists_leads_sign {serial : Vector UInt8 serialSize}
    (h : a.signWith (serialOf serial.toList) t = .ok signed) :
    ∃ u, Program.Leads (a.sign t) u (.done (.ok signed)) := by
  have hrandom : Program.Leads (liftM (Surroundings.random serialSize) :
      ExceptT Error (Program Surroundings) _) [⟨.random serialSize, serial⟩] (.done (.ok serial)) :=
    .ask (.refl _)
  exact ⟨_, hrandom.try (Program.leads_check h (@Program.Leads.ask _ _ _ _ () _ _ (.refl _)))⟩

/-- In what an authority signs the text of its own certificate plays no part. -/
theorem signWith_certificatePem (a : CertificateAuthority) (certificatePem : String) (serial : Bytes)
    (t : Template PublicKey) :
    { a with certificatePem }.signWith serial t = a.signWith serial t := rfl

/-- What is signed: the template with its key and its names, as they are written. -/
theorem exists_sign?_of_signWith {serial : Bytes} (h : a.signWith serial t = .ok signed) :
    ∃ key, t.publicKey = some key ∧ (GeneralName.octets t.generalNames).length ≤ maxLength ∧
      (a.unsigned serial t key (GeneralName.octets t.generalNames)).sign? a.key.secret =
        some signed.der := by
  rw [signWith] at h
  cases hkey : t.publicKey with
  | none =>
    rw [hkey] at h
    cases h
  | some key =>
    rw [hkey] at h
    obtain ⟨names, hnames, h⟩ := bind_eq_ok_iff.1 h
    obtain ⟨-, -, hle, rfl⟩ := GeneralName.encodeAll_eq_ok_iff.1 hnames
    refine ⟨key, rfl, hle, ?_⟩
    split at h
    · next der hsign =>
      cases h
      exact hsign
    · cases h

/-- The names of a template stand in the only extension of their kind. -/
theorem filter_extensions_unsigned (a : CertificateAuthority) (serial : Bytes)
    (t : Template PublicKey) (key : PublicKey) (names : Bytes) :
    (a.unsigned serial t key names).extensions.filter (·.oid = .subjectAltName) =
      [⟨.subjectAltName, false, names⟩] := rfl

/-- The certificate that is signed for a template is read back. -/
theorem exists_ofDer_of_signWith {serial : Bytes} {id : NodeIdentity}
    {services : List ServiceEndpoint} (built : t.IsFor id services)
    (kind : ∀ key ∈ t.publicKey, X509.IsKind key.algorithm)
    (h : a.signWith serial t = .ok signed) (hlt : signed.der.length < UInt64.size) :
    ∃ s, CertificateSummary.ofDer signed.der = .ok s ∧ s.Describes id services := by
  obtain ⟨key, hkey, fits, signs⟩ := exists_sign?_of_signWith h
  generalize hu : a.unsigned serial t key (GeneralName.octets t.generalNames) = u at signs
  have hsubject : X509.Takes X509.Name.read u.subject.encode (.ofCommonName t.commonName) :=
    hu ▸ X509.Name.takes_ofCommonName t.commonName
  have hkind : X509.IsKind u.publicKey.algorithm := hu ▸ kind key hkey
  obtain ⟨k, kind', signature, -, -, hread⟩ :=
    X509.Certificate.exists_ofDer?_sign? hsubject hkind signs hlt
  have only : (X509.Certificate.ofUnsigned u (.ofCommonName t.commonName) k kind'
      signature).extensionsOf .subjectAltName =
        [⟨.subjectAltName, false, GeneralName.octets t.generalNames⟩] :=
    hu ▸ a.filter_extensions_unsigned serial t key _
  have strict : ∀ n ∈ GeneralName.otherNames t.generalNames, n.oid.IsStrict := by
    have hkind : Oid.commonName.IsStrict := by decide
    rw [t.otherNames_generalNames, built.otherName]
    exact List.forall_mem_singleton.2 hkind
  obtain ⟨s, hs, hcommon, hdns, hips, hother⟩ :=
    CertificateSummary.exists_ofCertificate only rfl fits strict
  refine ⟨s, ?_, ?_, ?_, ?_, ?_⟩
  · exact (CertificateSummary.ofDer_eq_ofCertificate hread).trans hs
  · rw [hcommon, ← built.commonName]
    exact X509.Name.commonName?_ofCommonName t.commonName
  · rw [hdns, t.dnsNames_generalNames, built.dnsNames, Template.dnsNamesOf]
  · rw [hips, t.ipAddresses_generalNames, built.addresses.map_normalize]
    exact built.addresses
  · rw [hother, t.otherNames_generalNames, built.otherName]

/-- Whatever template is built, its names can be written, unless they are too long; and whenever it is
signed, by whatever authority, the certificate is read back and describes the node and its services.
The key is to be of some kind, as those of all key pairs are, and the certificate to be shorter than
64 bits can count. -/
theorem ofDer_sign {now : Instant} {id : NodeIdentity} {services : List ServiceEndpoint}
    {publicKey : Option PublicKey} {validity : Duration}
    (built : Template.build now id services publicKey validity = .ok t) :
    Writes (GeneralName.encodeAll t.generalNames) (GeneralName.octets t.generalNames) ∧
      ((∀ key ∈ publicKey, X509.IsKind key.algorithm) →
        ∀ (a : CertificateAuthority) (u : Trace Surroundings) (signed : SignedCertificate),
          Program.Leads (a.sign t) u (.done (.ok signed)) → signed.der.length < UInt64.size →
            ∃ s, CertificateSummary.ofDer signed.der = .ok s ∧ s.Describes id services) := by
  obtain ⟨isFor, hkey⟩ := Template.isFor_of_build built
  refine ⟨isFor.writes, fun kind a u signed hsign hlt => ?_⟩
  obtain ⟨serial, hserial⟩ := (a.along_sign t).ends hsign signed rfl
  exact exists_ofDer_of_signWith isFor (hkey ▸ kind) hserial hlt

/-- A node with an address in the IPv4-mapped form, and two services, of which one has no address. -/
theorem ofDer_sign_mapped :
    let id : NodeIdentity := ⟨"es-0", "::ffff:10.0.0.7", "demo", "default"⟩
    let services : List ServiceEndpoint :=
      [⟨"es", "default", some "10.96.0.1"⟩, ⟨"es-internal", "default", none⟩]
    let node : KeyPair := ⟨.ed25519 (List.replicate 32 0x07), []⟩
    let a : CertificateAuthority :=
      ⟨.ofCommonName "demo-ca", ⟨.ed25519 (List.replicate 32 0x01), []⟩, ""⟩
    ∃ t u signed s,
      Template.build ⟨0⟩ id services (some node.publicKey) (.ofSeconds 86400) = .ok t ∧
      X509.IsKind node.publicKey.algorithm ∧
      Program.Leads (a.sign t) u (.done (.ok signed)) ∧ signed.der.length < UInt64.size ∧
      CertificateSummary.ofDer signed.der = .ok s ∧ s.Describes id services ∧
      s.dnsNames = ["es-0", "es", "es.default.svc.cluster.local", "es-internal",
        "es-internal.default.svc.cluster.local"] ∧
      s.ipAddresses = [.v4 #v[10, 0, 0, 7], .v4 #v[127, 0, 0, 1], .v4 #v[10, 96, 0, 1]] := by
  intro id services node a
  let t : Template PublicKey := {
    commonName := id.canonicalName
    dnsNames := Template.dnsNamesOf id services
    ipAddresses := [.v4 #v[10, 0, 0, 7], .localhost, .v4 #v[10, 96, 0, 1]]
    otherName := ⟨.commonName, id.canonicalName⟩
    publicKey := some node.publicKey
    notBefore := .ofSeconds (-300)
    notAfter := .ofSeconds 86400 }
  have built : Template.build ⟨0⟩ id services (some node.publicKey) (.ofSeconds 86400) = .ok t := by
    dsimp only [id, services, t]
    rfl
  have kind : X509.IsKind node.publicKey.algorithm := X509.isKind_keyAlgorithm node.secret
  have kinds : ∀ key ∈ some node.publicKey, X509.IsKind key.algorithm := by
    rintro _ ⟨⟩
    exact kind
  let serial : Vector UInt8 serialSize := .replicate 16 1
  have hsize : (a.signWith (serialOf serial.toList) t).toOption.any
      (·.der.length < UInt64.size) := by decide +kernel
  obtain ⟨signed, hsigned, hlt⟩ := exists_ok_of_any hsize
  have hlt : signed.der.length < UInt64.size := of_decide_eq_true hlt
  obtain ⟨u, hu⟩ := exists_leads_sign hsigned
  obtain ⟨s, hs, describes⟩ := (ofDer_sign built).2 kinds a u signed hu hlt
  have hips : .ok t.ipAddresses = Except.ok s.ipAddresses :=
    (show Template.addressesOf id services = .ok t.ipAddresses by decide).symm.trans
      (Template.addressesOf_eq_ok_iff.2 describes.ipAddresses)
  exact ⟨t, u, signed, s, built, kind, hu, hlt, hs, describes, describes.dnsNames,
    (Except.ok.inj hips).symm⟩

end CertificateAuthority

end NodePki
