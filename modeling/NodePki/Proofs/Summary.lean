import NodePki.Proofs.San.RoundTrip
import NodePki.Proofs.X509.AlternativeName
import NodePki.Summary

/-!
# Summaries of written names

Both readers together, on a certificate whose one extension with alternative names holds written
names: the summary has the DNS names as they were written, the addresses in their normal form, and
the other names, each kind in its order (`exists_ofCertificate`).
-/

namespace NodePki

namespace GeneralName

/-- The DNS names among some names. -/
def dnsNames (names : List GeneralName) : List String :=
  names.filterMap fun
    | dnsName name => some name
    | _ => none

/-- The addresses among some names. -/
def ipAddresses (names : List GeneralName) : List IpAddress :=
  names.filterMap fun
    | ipAddress ip => some ip
    | _ => none

end GeneralName

namespace CertificateSummary

open X509 (AlternativeName Certificate)

theorem ofDer_eq_ofCertificate {der : Bytes} {c : Certificate} (h : Certificate.ofDer? der = some c) :
    ofDer der = ofCertificate c := by
  rw [ofDer, readCertificate, h]
  rfl

/-- A certificate is summarized only if both readers take its alternative names; the other names are
those of the strict one. -/
theorem readers_of_ofCertificate {c : Certificate} {s : CertificateSummary}
    (h : ofCertificate c = .ok s) :
    ∃ entries, c.alternativeNames? = some entries ∧ otherNamesOf c = .ok s.otherNames := by
  rw [ofCertificate] at h
  cases hentries : c.alternativeNames? with
  | none =>
    rw [hentries] at h
    cases h
  | some entries =>
    rw [hentries] at h
    obtain ⟨ips, -, h⟩ := bind_eq_ok_iff.1 h
    obtain ⟨ns, hns, h⟩ := bind_eq_ok_iff.1 h
    cases h
    exact ⟨entries, rfl, hns⟩

theorem dnsNamesOf_map (names : List GeneralName) :
    dnsNamesOf (names.map AlternativeName.ofGeneralName) = GeneralName.dnsNames names := by
  rw [dnsNamesOf, List.filterMap_map]
  refine List.filterMap_congr fun g _ => ?_
  cases g <;> rfl

theorem ipAddressesOf_map (names : List GeneralName) :
    ipAddressesOf (names.map AlternativeName.ofGeneralName) =
      .ok ((GeneralName.ipAddresses names).map IpAddress.normalize) := by
  induction names with
  | nil => rfl
  | cons g names ih =>
    cases g with
    | otherName n => exact ih
    | dnsName name => exact ih
    | ipAddress ip =>
      rw [List.map_cons, AlternativeName.ofGeneralName, ipAddressesOf, IpAddress.ofOctets?_octets]
      dsimp only
      rw [ih]
      rfl

/-- The summary of a certificate whose only alternative names are written names. -/
theorem exists_ofCertificate {c : Certificate} {e : X509.Extension} {names : List GeneralName}
    (only : c.extensionsOf .subjectAltName = [e]) (value : e.value = GeneralName.octets names)
    (fits : (GeneralName.octets names).length ≤ Der.maxLength)
    (strict : ∀ n ∈ GeneralName.otherNames names, n.oid.IsStrict) :
    ∃ s, ofCertificate c = .ok s ∧ s.commonName = c.subject.commonName? ∧
      s.dnsNames = GeneralName.dnsNames names ∧
      s.ipAddresses = (GeneralName.ipAddresses names).map IpAddress.normalize ∧
      s.otherNames = GeneralName.otherNames names := by
  have hentries : c.alternativeNames? = some (names.map AlternativeName.ofGeneralName) := by
    rw [Certificate.alternativeNames?, only]
    dsimp only
    rw [value]
    exact AlternativeName.ofExtension?_octets (Nat.lt_of_le_of_lt fits (by decide))
  have hother : otherNamesOf c = .ok (GeneralName.otherNames names) := by
    rw [otherNamesOf, only]
    dsimp only
    rw [value]
    exact (GeneralName.readAll_octets_iff fits).2 ⟨strict, rfl⟩
  rw [ofCertificate, hentries]
  dsimp only
  rw [ipAddressesOf_map, hother, dnsNamesOf_map]
  exact ⟨_, rfl, rfl, rfl, rfl, rfl⟩

end CertificateSummary

end NodePki
