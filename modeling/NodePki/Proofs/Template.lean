import Mathlib.Data.List.Forall2
import NodePki.Proofs.Der.Reader
import NodePki.Template

/-!
# What templates hold

A template that was built describes its node and services (`isFor_of_build`): all names and
addresses are there, each service's in its place, and every name can be written.
-/

namespace NodePki

namespace Template

variable {κ : Type}

/-- A text is read as an address that stands for this one. -/
def IsAddressOf (text : String) (ip : IpAddress) : Prop :=
  ∃ a, IpAddress.parse? text = some a ∧ a.StandsFor ip

/-- The addresses that the texts of a pod and its services write, with that of the host between
them. -/
def AreAddresses (id : NodeIdentity) (services : List ServiceEndpoint) (ips : List IpAddress) :
    Prop :=
  List.Forall₂ IsAddressOf (id.podAddress :: "127.0.0.1" :: services.filterMap (·.address)) ips

theorem isAddressOf_iff {text : String} {ip : IpAddress} :
    IsAddressOf text ip ↔ ∃ a, IpAddress.parse? text = some a ∧ ip = a.normalize := by
  simp only [IsAddressOf, IpAddress.standsFor_iff]

theorem IsAddressOf.normalize {text : String} {ip : IpAddress} (h : IsAddressOf text ip) :
    ip.normalize = ip := by
  obtain ⟨a, -, rfl⟩ := isAddressOf_iff.1 h
  exact a.normalize_normalize

theorem isAddressOf_localhost_iff {ip : IpAddress} :
    IsAddressOf "127.0.0.1" ip ↔ ip = .localhost := by
  have hparse : IpAddress.parse? "127.0.0.1" = some .localhost := by decide
  simp [isAddressOf_iff, hparse, show IpAddress.localhost.normalize = .localhost from rfl]

/-- The addresses are in their normal form already. -/
theorem AreAddresses.map_normalize {id : NodeIdentity} {services : List ServiceEndpoint}
    {ips : List IpAddress} (h : AreAddresses id services ips) :
    ips.map IpAddress.normalize = ips := by
  unfold AreAddresses at h
  generalize id.podAddress :: _ = texts at h
  induction h with
  | nil => rfl
  | cons hip _ ih => rw [List.map_cons, ih, hip.normalize]

/-- A template for a node and services, whose names can be written. -/
structure IsFor (t : Template κ) (id : NodeIdentity) (services : List ServiceEndpoint) : Prop where
  commonName : t.commonName = id.canonicalName
  dnsNames : t.dnsNames = dnsNamesOf id services
  legal : ∀ name ∈ t.dnsNames, isDnsName name
  addresses : AreAddresses id services t.ipAddresses
  otherName : t.otherName = ⟨.commonName, id.canonicalName⟩

theorem checkDnsNames_eq_ok_iff {names : List String} :
    checkDnsNames names = .ok () ↔ ∀ name ∈ names, isDnsName name := by
  rw [checkDnsNames]
  split
  · next name h =>
    have hbad := List.find?_some h
    have hmem := List.mem_of_find?_eq_some h
    refine ⟨fun h => (nomatch h), fun hall => ?_⟩
    simp [hall name hmem] at hbad
  · next h =>
    simpa using h

theorem readAddress_eq_ok_iff {source : AddressSource} {text : String} {ip : IpAddress} :
    readAddress source text = .ok ip ↔ IsAddressOf text ip := by
  rw [readAddress, isAddressOf_iff]
  cases IpAddress.parse? text with
  | none => simp
  | some a => simp [eq_comm]

theorem serviceAddresses_eq_ok_iff {services : List ServiceEndpoint} {ips : List IpAddress} :
    serviceAddresses services = .ok ips ↔
      List.Forall₂ IsAddressOf (services.filterMap (·.address)) ips := by
  induction services generalizing ips with
  | nil => simp [serviceAddresses, eq_comm]
  | cons s services ih =>
    rw [serviceAddresses]
    cases haddress : s.address with
    | none =>
      rw [List.filterMap_cons_none haddress]
      exact ih
    | some text =>
      rw [List.filterMap_cons_some haddress]
      simp only [bind_eq_ok_iff, readAddress_eq_ok_iff, ih, List.forall₂_cons_left_iff]
      constructor
      · rintro ⟨ip, hip, others, hothers, hips⟩
        cases hips
        exact ⟨ip, others, hip, hothers, rfl⟩
      · rintro ⟨ip, others, hip, hothers, rfl⟩
        exact ⟨ip, hip, others, hothers, rfl⟩

theorem addressesOf_eq_ok_iff {id : NodeIdentity} {services : List ServiceEndpoint}
    {ips : List IpAddress} : addressesOf id services = .ok ips ↔ AreAddresses id services ips := by
  simp only [addressesOf, bind_eq_ok_iff, readAddress_eq_ok_iff, serviceAddresses_eq_ok_iff,
    AreAddresses, List.forall₂_cons_left_iff, isAddressOf_localhost_iff]
  constructor
  · rintro ⟨own, hown, others, hothers, hips⟩
    cases hips
    exact ⟨own, _, hown, ⟨_, others, rfl, hothers, rfl⟩, rfl⟩
  · rintro ⟨own, _, hown, ⟨_, others, rfl, hothers, rfl⟩, rfl⟩
    exact ⟨own, hown, others, hothers, rfl⟩

/-- A template that was built is for the node and the services it was built from. -/
theorem isFor_of_build {now : Instant} {id : NodeIdentity} {services : List ServiceEndpoint}
    {publicKey : Option κ} {validity : Duration} {t : Template κ}
    (h : build now id services publicKey validity = .ok t) :
    t.IsFor id services ∧ t.publicKey = publicKey := by
  simp only [build, bind_eq_ok_iff, addressesOf_eq_ok_iff] at h
  obtain ⟨-, -, ⟨⟩, hnames, ips, hips, hwindow⟩ := h
  split at hwindow
  · cases hwindow
  · cases hwindow
    exact ⟨⟨rfl, rfl, checkDnsNames_eq_ok_iff.1 hnames, hips, rfl⟩, rfl⟩

end Template

end NodePki
