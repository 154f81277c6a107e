import NodePki.Proofs.Template

/-!
# What is wrong with the inputs of a template

All that can be wrong with an identity, its services and a validity, in the order in which it is looked
for (`faults`). A check reports the first of its faults, and checks one after another the faults of the
first before those of the second (`reports_bind`), so a template is built exactly if nothing is wrong,
and the error names the first thing that is (`build_first_fault`).
-/

namespace NodePki

namespace Template

variable {κ α β : Type} {now : Instant} {id : NodeIdentity} {services : List ServiceEndpoint}
  {publicKey : Option κ} {validity : Duration}

/-! ### Faults -/

/-- The fields of an identity that are empty. -/
def fieldFaults (id : NodeIdentity) : List IdentityFault :=
  ([(.podName, id.podName), (.clusterName, id.clusterName), (.namespaceName, id.ns)].filter
    fun field => field.2 = "").map fun field => .empty field.1

/-- The DNS names that are empty or not ASCII. -/
def nameFaults (names : List String) : List IdentityFault :=
  (names.filter (!isDnsName ·)).map .dnsName

/-- The texts that are no addresses, with where they come from. -/
def addressFaults (texts : List (AddressSource × String)) : List IdentityFault :=
  (texts.filter fun text => IpAddress.parse? text.2 = none).map fun text => .address text.1 text.2

/-- The address that a service has, with where it comes from. -/
def addressText? (s : ServiceEndpoint) : Option (AddressSource × String) :=
  s.address.map fun text => (.service s.name, text)

/-- A validity that ends too late. -/
def validityFaults (now : Instant) (validity : Duration) : List IdentityFault :=
  if now.nanos + validity.nanos ≤ Instant.latest.nanos then [] else [.validity validity]

/-- All that is wrong with an identity and services, in the order in which it is looked for. -/
def inputFaults (id : NodeIdentity) (services : List ServiceEndpoint) : List IdentityFault :=
  fieldFaults id ++
    nameFaults (id.podName :: services.flatMap fun s => [s.name, s.qualifiedName]) ++
    addressFaults ((.pod, id.podAddress) :: services.filterMap addressText?)

/-- All that is wrong, in the order in which it is looked for. -/
def faults (now : Instant) (id : NodeIdentity) (services : List ServiceEndpoint)
    (validity : Duration) : List IdentityFault :=
  inputFaults id services ++ validityFaults now validity

/-! ### Checks -/

/-- A check ends with the first of its faults, and with a value if there are none. -/
def Reports (result : Except Error α) : List IdentityFault → Prop
  | [] => ∃ a, result = .ok a
  | fault :: _ => result = .error (.invalidIdentity fault)

/-- One check after another. -/
theorem reports_bind {x : Except Error α} {f : α → Except Error β} {first second : List IdentityFault}
    (hx : Reports x first) (hf : ∀ a, x = .ok a → Reports (f a) second) :
    Reports (x >>= f) (first ++ second) := by
  cases first with
  | nil =>
    obtain ⟨a, rfl⟩ := hx
    exact hf a rfl
  | cons fault rest =>
    rw [show x = .error (.invalidIdentity fault) from hx]
    exact rfl

/-- What is made of the value is no matter. -/
theorem reports_map {x : Except Error α} {f : α → β} {first : List IdentityFault}
    (hx : Reports x first) : Reports (x >>= fun a => .ok (f a)) first := by
  have h : Reports (x >>= fun a => .ok (f a)) (first ++ []) :=
    reports_bind hx fun a _ => ⟨f a, rfl⟩
  rwa [List.append_nil] at h

theorem reports_checkIdentity (id : NodeIdentity) : Reports (checkIdentity id) (fieldFaults id) := by
  unfold checkIdentity fieldFaults
  by_cases hpod : id.podName = ""
  · simp [Reports, hpod]
  · by_cases hcluster : id.clusterName = ""
    · simp [Reports, hpod, hcluster]
    · by_cases hns : id.ns = "" <;> simp [Reports, hpod, hcluster, hns]

theorem reports_checkDnsNames (names : List String) :
    Reports (checkDnsNames names) (nameFaults names) := by
  unfold checkDnsNames nameFaults
  rw [← List.head?_filter]
  cases names.filter (!isDnsName ·) with
  | nil => exact ⟨(), rfl⟩
  | cons name rest => exact rfl

theorem reports_readAddress (source : AddressSource) (text : String) :
    Reports (readAddress source text) (addressFaults [(source, text)]) := by
  unfold readAddress addressFaults
  cases h : IpAddress.parse? text <;> simp [Reports, h]

theorem addressFaults_cons (text : AddressSource × String) (texts : List (AddressSource × String)) :
    addressFaults (text :: texts) = addressFaults [text] ++ addressFaults texts := by
  unfold addressFaults
  rw [← List.map_append, ← List.filter_append, List.singleton_append]

theorem reports_serviceAddresses (services : List ServiceEndpoint) :
    Reports (serviceAddresses services) (addressFaults (services.filterMap addressText?)) := by
  induction services with
  | nil => exact ⟨[], rfl⟩
  | cons s services ih =>
    rw [serviceAddresses]
    cases haddress : s.address with
    | none =>
      have hnone : addressText? s = none := by rw [addressText?, haddress, Option.map_none]
      rw [List.filterMap_cons_none hnone]
      exact ih
    | some text =>
      have hsome : addressText? s = some (.service s.name, text) := by
        rw [addressText?, haddress, Option.map_some]
      rw [List.filterMap_cons_some hsome, addressFaults_cons]
      exact reports_bind (reports_readAddress _ text) fun ip _ => reports_map ih

theorem reports_addressesOf (id : NodeIdentity) (services : List ServiceEndpoint) :
    Reports (addressesOf id services)
      (addressFaults ((.pod, id.podAddress) :: services.filterMap addressText?)) := by
  rw [addressFaults_cons]
  exact reports_bind (reports_readAddress .pod id.podAddress) fun own _ =>
    reports_map (reports_serviceAddresses services)

/-- When a certificate begins and ends to be valid, if it does not end too late. -/
theorem window?_of_le (h : now.nanos + validity.nanos ≤ Instant.latest.nanos) :
    window? now validity = some (now.sub clockSkew, ⟨now.nanos + validity.nanos⟩) := by
  rw [window?, Instant.add?, if_pos h, Option.map_some]

theorem window?_of_not_le (h : ¬ now.nanos + validity.nanos ≤ Instant.latest.nanos) :
    window? now validity = none := by
  rw [window?, Instant.add?, if_neg h, Option.map_none]

/-- A template reports the first of all that is wrong. -/
theorem reports_build (now : Instant) (id : NodeIdentity) (services : List ServiceEndpoint)
    (publicKey : Option κ) (validity : Duration) :
    Reports (build now id services publicKey validity) (faults now id services validity) := by
  rw [faults, inputFaults, List.append_assoc, List.append_assoc]
  refine reports_bind (reports_checkIdentity id) fun _ _ => ?_
  refine reports_bind (reports_checkDnsNames _) fun _ _ => ?_
  refine reports_bind (reports_addressesOf id services) fun _ _ => ?_
  by_cases h : now.nanos + validity.nanos ≤ Instant.latest.nanos
  · rw [window?_of_le h, validityFaults, if_pos h]
    exact ⟨_, rfl⟩
  · rw [window?_of_not_le h, validityFaults, if_neg h]
    exact rfl

/-! ### Acceptance -/

/-- An identity and services with which nothing is wrong. -/
structure Acceptable (id : NodeIdentity) (services : List ServiceEndpoint) : Prop where
  podName : id.podName ≠ ""
  clusterName : id.clusterName ≠ ""
  ns : id.ns ≠ ""
  dnsNames : ∀ name ∈ id.podName :: services.flatMap fun s => [s.name, s.qualifiedName],
    name ≠ "" ∧ ∀ c ∈ name.toList, c.toNat < 0x80
  podAddress : ∃ ip, IpAddress.parse? id.podAddress = some ip
  addresses : ∀ s ∈ services, ∀ text ∈ s.address, ∃ ip, IpAddress.parse? text = some ip

theorem fieldFaults_eq_nil_iff :
    fieldFaults id = [] ↔ id.podName ≠ "" ∧ id.clusterName ≠ "" ∧ id.ns ≠ "" := by
  simp [fieldFaults, List.filter_eq_nil_iff]

theorem nameFaults_eq_nil_iff {names : List String} :
    nameFaults names = [] ↔ ∀ name ∈ names, name ≠ "" ∧ ∀ c ∈ name.toList, c.toNat < 0x80 := by
  simp [nameFaults, List.filter_eq_nil_iff, ← isDnsName_iff]

theorem addressFaults_eq_nil_iff {texts : List (AddressSource × String)} :
    addressFaults texts = [] ↔ ∀ text ∈ texts, ∃ ip, IpAddress.parse? text.2 = some ip := by
  simp [addressFaults, List.filter_eq_nil_iff, Option.ne_none_iff_exists']

theorem validityFaults_eq_nil_iff :
    validityFaults now validity = [] ↔ now.nanos + validity.nanos ≤ Instant.latest.nanos := by
  simp [validityFaults]

/-- Nothing is wrong with an identity and services exactly if each of them is as it should be. -/
theorem inputFaults_eq_nil_iff : inputFaults id services = [] ↔ Acceptable id services := by
  have haddresses : (∀ text ∈ services.filterMap addressText?, ∃ ip,
      IpAddress.parse? text.2 = some ip) ↔
        ∀ s ∈ services, ∀ text ∈ s.address, ∃ ip, IpAddress.parse? text = some ip := by
    simp only [List.mem_filterMap, addressText?, Option.map_eq_some_iff, Option.mem_def]
    constructor
    · intro h s hs text htext
      exact h _ ⟨s, hs, text, htext, rfl⟩
    · rintro h _ ⟨s, hs, text, htext, rfl⟩
      exact h s hs text htext
  simp only [inputFaults, List.append_eq_nil_iff, fieldFaults_eq_nil_iff, nameFaults_eq_nil_iff,
    addressFaults_eq_nil_iff, List.forall_mem_cons (a := (_, _)), haddresses]
  constructor
  · rintro ⟨⟨⟨hpod, hcluster, hns⟩, hnames⟩, hown, hothers⟩
    exact ⟨hpod, hcluster, hns, hnames, hown, hothers⟩
  · intro h
    exact ⟨⟨⟨h.podName, h.clusterName, h.ns⟩, h.dnsNames⟩, h.podAddress, h.addresses⟩

theorem faults_eq_nil_iff : faults now id services validity = [] ↔
    Acceptable id services ∧ now.nanos + validity.nanos ≤ Instant.latest.nanos := by
  rw [faults, List.append_eq_nil_iff, inputFaults_eq_nil_iff, validityFaults_eq_nil_iff]

/-! ### What is built -/

/-- What a template says: the names of the node and of each service, in their order, their addresses
with that of the host after the node's, the key, and the time for which it is valid. -/
structure Says (t : Template κ) (now : Instant) (id : NodeIdentity)
    (services : List ServiceEndpoint) (publicKey : Option κ) (validity : Duration) : Prop where
  commonName : t.commonName = id.canonicalName
  otherName : t.otherName = ⟨.ofArcs [2, 5, 4, 3], id.canonicalName⟩
  dnsNames : t.dnsNames = id.podName :: services.flatMap fun s => [s.name, s.qualifiedName]
  ipAddresses : AreAddresses id services t.ipAddresses
  publicKey : t.publicKey = publicKey
  notBefore : t.notBefore.nanos = now.nanos - 300 * 1000000000
  notAfter : t.notAfter.nanos = now.nanos + validity.nanos

/-- The end of the validity is looked at, too. -/
theorem window_of_build {t : Template κ} (h : build now id services publicKey validity = .ok t) :
    window? now validity = some (t.notBefore, t.notAfter) := by
  simp only [build, bind_eq_ok_iff] at h
  obtain ⟨-, -, -, -, ips, -, hwindow⟩ := h
  split at hwindow
  · cases hwindow
  · next heq =>
    cases hwindow
    exact heq

/-- What is built from inputs with which nothing is wrong, if the validity does not end too late. -/
theorem exists_build (publicKey : Option κ) (h : Acceptable id services)
    (hend : now.nanos + validity.nanos ≤ Instant.latest.nanos) :
    ∃ t, build now id services publicKey validity = .ok t := by
  have reports := reports_build now id services publicKey validity
  rwa [faults_eq_nil_iff.2 ⟨h, hend⟩] at reports

/-- The error for a validity that ends too late. -/
theorem build_of_late (publicKey : Option κ) (h : Acceptable id services)
    (hend : ¬ now.nanos + validity.nanos ≤ Instant.latest.nanos) :
    build now id services publicKey validity = .error (.invalidIdentity (.validity validity)) := by
  have reports := reports_build now id services publicKey validity
  rwa [faults, inputFaults_eq_nil_iff.2 h, List.nil_append, validityFaults, if_neg hend] at reports

theorem says_of_build {t : Template κ} (h : build now id services publicKey validity = .ok t) :
    t.Says now id services publicKey validity := by
  obtain ⟨isFor, hkey⟩ := isFor_of_build h
  have hwindow := window_of_build h
  have hname : Oid.ofArcs [2, 5, 4, 3] = .commonName := by decide
  obtain ⟨notAfter, hadd, hends⟩ := Option.map_eq_some_iff.1 hwindow
  obtain ⟨hbefore, hafter⟩ := Prod.mk.inj hends
  refine ⟨isFor.commonName, hname ▸ isFor.otherName, isFor.dnsNames, isFor.addresses, hkey, ?_, ?_⟩
  · rw [← hbefore]
    rfl
  · rw [← hafter]
    exact (Instant.add?_eq_some.1 hadd).1

/-- A template is built exactly if nothing is wrong, and says what it was built from; otherwise the error
is the first thing that is wrong. -/
theorem build_first_fault (now : Instant) (id : NodeIdentity) (services : List ServiceEndpoint)
    (publicKey : Option κ) (validity : Duration) :
    ((∃ t, build now id services publicKey validity = .ok t) ↔
      Acceptable id services ∧ now.nanos + validity.nanos ≤ Instant.latest.nanos) ∧
    (∀ t, build now id services publicKey validity = .ok t →
      t.Says now id services publicKey validity) ∧
    ∀ e, build now id services publicKey validity = .error e ↔
      ∃ fault rest, faults now id services validity = fault :: rest ∧ e = .invalidIdentity fault := by
  have reports := reports_build now id services publicKey validity
  refine ⟨?_, fun t => says_of_build, fun e => ?_⟩
  · rw [← faults_eq_nil_iff]
    cases hfaults : faults now id services validity with
    | nil =>
      rw [hfaults] at reports
      exact iff_of_true reports rfl
    | cons fault rest =>
      rw [hfaults] at reports
      simp [show build now id services publicKey validity = _ from reports]
  · cases hfaults : faults now id services validity with
    | nil =>
      rw [hfaults] at reports
      obtain ⟨t, ht⟩ := reports
      simp [ht]
    | cons fault rest =>
      rw [hfaults] at reports
      simp [show build now id services publicKey validity = _ from reports, eq_comm]

end Template

end NodePki
