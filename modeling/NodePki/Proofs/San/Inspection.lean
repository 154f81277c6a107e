import NodePki.Proofs.Summary
import NodePki.X509.Unsigned

/-!
# Names as they are written and as they are inspected

All lists of names, whether or not a template makes them. What is written does not depend on the form
of the addresses (`encodeAll_map_normalize`). A list is refused for what it holds or for its length
(`exists_encodeAll_error_iff`), and the refusal says which (`refuses_of_encodeAll`). Of a certificate
that carries what was written the summary lists the names again (`exists_ofDer_of_carries`).
-/

namespace NodePki

open Der (tlv tlvs maxLength)

/-- The value is that of the only extension with alternative names. -/
def X509.Certificate.Carries (c : X509.Certificate) (value : Bytes) : Prop :=
  ∃ e, c.extensionsOf .subjectAltName = [e] ∧ e.value = value

/-- The summary lists names, each kind in its order: addresses in their normal form, and the others as
they are. -/
structure CertificateSummary.Lists (s : CertificateSummary) (names : List GeneralName) : Prop where
  dnsNames : s.dnsNames = GeneralName.dnsNames names
  ipAddresses : s.ipAddresses = (GeneralName.ipAddresses names).map IpAddress.normalize
  otherNames : s.otherNames = GeneralName.otherNames names

namespace GeneralName

variable {names : List GeneralName} {e : Error}

/-! ## Addresses -/

/-- The name, with the normal form in the place of an address. -/
def normalize : GeneralName → GeneralName
  | ipAddress ip => ipAddress ip.normalize
  | g => g

theorem encode_normalize (g : GeneralName) : g.normalize.encode = g.encode := by
  cases g with
  | ipAddress ip => rw [normalize, encode, encode, IpAddress.octets_normalize]
  | _ => rfl

theorem encodeBody_map_normalize (names : List GeneralName) :
    encodeBody (names.map normalize) = encodeBody names := by
  induction names with
  | nil => rfl
  | cons g names ih => rw [List.map_cons, encodeBody, encodeBody, encode_normalize, ih]

/-- Addresses are written in their normal form. -/
theorem encodeAll_map_normalize (names : List GeneralName) :
    encodeAll (names.map normalize) = encodeAll names := by
  rw [encodeAll, encodeAll, List.isEmpty_map, encodeBody_map_normalize]

/-! ## Refusals -/

/-- Names that are refused for what they are: there are none, or one is a DNS name that is empty or
not ASCII. -/
def IsIllegal (names : List GeneralName) : Prop :=
  names = [] ∨
    ∃ name, dnsName name ∈ names ∧ (name = "" ∨ ∃ c ∈ name.toList, 0x80 ≤ c.toNat)

/-- The text is the first of the names that cannot be written, however short. -/
inductive IsSpoiledBy (name : String) : List GeneralName → Prop
  | here {others : List GeneralName} (illegal : ¬ isDnsName name) :
      IsSpoiledBy name (dnsName name :: others)
  | later {g : GeneralName} {others : List GeneralName} (legal : g.IsWritable)
      (spoiled : IsSpoiledBy name others) : IsSpoiledBy name (g :: others)

/-- The errors that names can be refused with: there are none, one cannot be written, or all together
are too long. -/
inductive Refuses (names : List GeneralName) : Error → Prop
  | none (nil : names = []) : Refuses names (.invalidIdentity .noGeneralNames)
  | spoiled {name : String} (spoiled : IsSpoiledBy name names) :
      Refuses names (.invalidIdentity (.dnsNameNotIa5 name))
  | long {e : Error} (limit : e.IsLimit) (long : maxLength < (octets names).length) :
      Refuses names e

theorem isIllegal_iff : IsIllegal names ↔ ¬ (names ≠ [] ∧ ∀ g ∈ names, g.IsWritable) := by
  have hlegal : (∀ g ∈ names, g.IsWritable) ↔ ∀ name, dnsName name ∈ names → isDnsName name := by
    constructor
    · exact fun h name hname => h _ hname
    · intro h g hg
      cases g with
      | dnsName name => exact h name hg
      | _ => trivial
  rw [IsIllegal, not_and_or, not_not, hlegal]
  simp only [isDnsName_iff, not_forall, not_and_or, not_not, Nat.not_lt, exists_prop]

/-- A list is refused exactly if there are no names in it, if a DNS name in it is empty or not ASCII,
or if it is too long. -/
theorem exists_encodeAll_error_iff :
    (∃ e, encodeAll names = .error e) ↔ IsIllegal names ∨ maxLength < (octets names).length := by
  have hok : (∃ bs, encodeAll names = .ok bs) ↔
      (names ≠ [] ∧ ∀ g ∈ names, g.IsWritable) ∧ (octets names).length ≤ maxLength := by
    simp only [encodeAll_eq_ok_iff]
    constructor
    · rintro ⟨_, hne, hwritable, hle, rfl⟩
      exact ⟨⟨hne, hwritable⟩, hle⟩
    · rintro ⟨⟨hne, hwritable⟩, hle⟩
      exact ⟨_, hne, hwritable, hle, rfl⟩
  rw [isIllegal_iff, ← Nat.not_le, ← not_and_or, ← hok]
  cases encodeAll names <;> simp

/-- A name is refused because it cannot be written, or for its length. -/
theorem encode_eq_error {g : GeneralName} (h : g.encode = .error e) :
    (∃ name, g = dnsName name ∧ ¬ isDnsName name ∧
        e = .invalidIdentity (.dnsNameNotIa5 name)) ∨
      e.IsLimit ∧ maxLength < (tlv g.value.1 g.value.2).length := by
  by_cases hwritable : g.IsWritable
  · exact .inr ((writes_encode hwritable).limit_of_error h)
  cases g with
  | dnsName name =>
    have illegal : ¬ isDnsName name := hwritable
    rw [encode, if_neg illegal] at h
    cases h
    exact .inl ⟨name, rfl, illegal, rfl⟩
  | _ => exact absurd trivial hwritable

/-- Names one after another are refused for the first that cannot be written, or for their length. -/
theorem encodeBody_eq_error (h : encodeBody names = .error e) :
    (∃ name, IsSpoiledBy name names ∧ e = .invalidIdentity (.dnsNameNotIa5 name)) ∨
      e.IsLimit ∧ maxLength < (tlvs (names.map value)).length := by
  induction names with
  | nil => cases h
  | cons g names ih =>
    rw [List.map_cons, Der.tlvs_cons, List.length_append]
    rw [encodeBody] at h
    cases hfirst : g.encode with
    | error e' =>
      rw [hfirst] at h
      cases h
      obtain ⟨name, rfl, illegal, rfl⟩ | ⟨limit, long⟩ := encode_eq_error hfirst
      · exact .inl ⟨name, .here illegal, rfl⟩
      · exact .inr ⟨limit, Nat.lt_add_right _ long⟩
    | ok first =>
      cases hrest : encodeBody names with
      | ok rest =>
        rw [hfirst, hrest] at h
        cases h
      | error e' =>
        rw [hfirst, hrest] at h
        cases h
        obtain ⟨name, spoiled, rfl⟩ | ⟨limit, long⟩ := ih hrest
        · exact .inl ⟨name, .later (isWritable_of_encode hfirst) spoiled, rfl⟩
        · exact .inr ⟨limit, Nat.lt_add_left _ long⟩

theorem refuses_of_encodeAll (h : encodeAll names = .error e) : Refuses names e := by
  by_cases hnil : names = []
  · subst hnil
    cases h
    exact .none rfl
  cases hbody : encodeBody names with
  | error e' =>
    rw [encodeAll, if_neg (by simpa using hnil), hbody] at h
    cases h
    obtain ⟨name, spoiled, rfl⟩ | ⟨limit, long⟩ := encodeBody_eq_error hbody
    · exact .spoiled spoiled
    · exact .long limit (Nat.lt_trans long (Der.length_lt_length_tlv _ _))
  | ok body =>
    obtain ⟨limit, long⟩ :=
      (writes_encodeAll hnil (isWritable_of_encodeBody hbody)).limit_of_error h
    exact .long limit long

/-! ## Inspection -/

/-- A certificate that carries written names is summarized, and the summary lists the names. -/
theorem exists_ofDer_of_carries {bs der : Bytes} {c : X509.Certificate}
    (h : encodeAll names = .ok bs) (hread : X509.Certificate.ofDer? der = some c)
    (carries : c.Carries bs) (strict : ∀ n ∈ otherNames names, n.oid.IsStrict) :
    ∃ s, CertificateSummary.ofDer der = .ok s ∧ s.Lists names := by
  obtain ⟨-, -, hle, rfl⟩ := encodeAll_eq_ok_iff.1 h
  obtain ⟨e, only, hvalue⟩ := carries
  obtain ⟨s, hs, -, hdns, hips, hother⟩ :=
    CertificateSummary.exists_ofCertificate only hvalue hle strict
  exact ⟨s, (CertificateSummary.ofDer_eq_ofCertificate hread).trans hs, hdns, hips, hother⟩

/-- A certificate is summarized only if the strict reader takes its other names. -/
theorem strict_of_ofDer {bs der : Bytes} {c : X509.Certificate} {s : CertificateSummary}
    (h : encodeAll names = .ok bs) (hread : X509.Certificate.ofDer? der = some c)
    (carries : c.Carries bs) (hs : CertificateSummary.ofDer der = .ok s) :
    ∀ n ∈ otherNames names, n.oid.IsStrict := by
  obtain ⟨-, -, hle, rfl⟩ := encodeAll_eq_ok_iff.1 h
  obtain ⟨e, only, hvalue⟩ := carries
  have hother : CertificateSummary.otherNamesOf c = OtherName.readAll (octets names) := by
    rw [CertificateSummary.otherNamesOf, only, ← hvalue]
  rw [CertificateSummary.ofDer_eq_ofCertificate hread] at hs
  obtain ⟨-, -, hns⟩ := CertificateSummary.readers_of_ofCertificate hs
  exact ((readAll_octets_iff hle).1 (hother ▸ hns)).1

/-- Writing names and inspecting them agree, for every list: a certificate that carries what was
written is summarized exactly if the strict reader takes the identifiers of the other names, and the
summary lists the names; what is written is the same with every address in its normal form; and a list
is refused exactly if there are no names in it, if a DNS name in it is empty or not ASCII, or if it is
too long. -/
theorem inspection_of_encodeAll (names : List GeneralName) :
    (∀ bs, encodeAll names = .ok bs → ∀ der c, X509.Certificate.ofDer? der = some c →
        c.Carries bs →
          ((∀ n ∈ otherNames names, n.oid.IsStrict) →
            ∃ s, CertificateSummary.ofDer der = .ok s ∧ s.Lists names) ∧
          ∀ s, CertificateSummary.ofDer der = .ok s → ∀ n ∈ otherNames names, n.oid.IsStrict) ∧
      encodeAll (names.map normalize) = encodeAll names ∧
      ((∃ e, encodeAll names = .error e) ↔ IsIllegal names ∨ maxLength < (octets names).length) ∧
      ∀ e, encodeAll names = .error e → Refuses names e := by
  refine ⟨fun bs hwrite der c hread carries => ?_, encodeAll_map_normalize names,
    exists_encodeAll_error_iff, fun e => refuses_of_encodeAll⟩
  exact ⟨exists_ofDer_of_carries hwrite hread carries,
    fun s hs => strict_of_ofDer hwrite hread carries hs⟩

/-- Names of all kinds in turn, with a mapped address, in a certificate with little else. -/
theorem inspection_of_encodeAll_mapped :
    let mapped : IpAddress := .v6 #v[0, 0, 0, 0, 0, 0, 0, 0, 0, 0, 0xff, 0xff, 10, 0, 0, 7]
    let names : List GeneralName := [
      .dnsName "es-0", .ipAddress mapped, .otherName ⟨.commonName, "é"⟩, .dnsName "es",
      .ipAddress (.v6 (.replicate 16 0x20))]
    let time := X509.encodeTime (.ofSeconds 0)
    let algorithm := Der.sequence [Der.objectIdentifier [0x2b, 0x65, 0x70]]
    let extension : X509.Extension := ⟨.subjectAltName, false, octets names⟩
    let der := Der.sequence [
      Der.sequence [
        Der.natural 1, algorithm, Der.sequence [], Der.sequence [time, time], Der.sequence [],
        Der.sequence [algorithm, Der.bitString 0 []],
        Der.tlv (.contextConstructed 3) (Der.sequence [extension.encode])],
      algorithm, Der.bitString 0 []]
    encodeAll names = .ok (octets names) ∧ (∀ n ∈ otherNames names, n.oid.IsStrict) ∧ ∃ c s,
      X509.Certificate.ofDer? der = some c ∧ c.Carries (octets names) ∧
      CertificateSummary.ofDer der = .ok s ∧ s.dnsNames = ["es-0", "es"] ∧
      s.ipAddresses = [.v4 #v[10, 0, 0, 7], .v6 (.replicate 16 0x20)] := by
  intro mapped names time algorithm extension der
  have hwrite : encodeAll names = .ok (octets names) := by decide +kernel
  have hcertificate : (X509.Certificate.ofDer? der).any
      (·.extensionsOf .subjectAltName = [extension]) := by decide +kernel
  obtain ⟨c, hread, honly⟩ := (Option.any_eq_true _ _).1 hcertificate
  have carries : c.Carries (octets names) := ⟨extension, by simpa using honly, rfl⟩
  have strict : ∀ n ∈ otherNames names, n.oid.IsStrict := by decide
  obtain ⟨s, hs, lists⟩ :=
    ((inspection_of_encodeAll names).1 _ hwrite der c hread carries).1 strict
  exact ⟨hwrite, strict, c, s, hread, carries, hs, lists.dnsNames,
    lists.ipAddresses.trans (by decide)⟩

end GeneralName

end NodePki
