import NodePki.Proofs.Authority
import NodePki.Proofs.Config
import NodePki.Proofs.Template.Faults

/-!
# How long certificates are valid

A validity is set as a number of days and passes several bounds on its way into a certificate: that of a
variable, that of a span, that of a moment. Up to the last moment that there is, no bound changes it
(`Template.window?_ofDays`); past that nothing is valid for so long, and that a span is cut short is
never seen. So certificates are valid for exactly the days that are set, or are not made
(`Config.validity_exact`).
-/

namespace NodePki

/-- A time from 300 seconds before a moment to some days after it. -/
structure Window (now : Instant) (days : Nat) (notBefore notAfter : Instant) : Prop where
  start : notBefore.nanos = now.nanos - 300 * 1000000000
  finish : notAfter.nanos = now.nanos + days * 86400 * 1000000000
  ordered : notBefore.nanos < notAfter.nanos

/-- Some days after a moment there still are moments. -/
def Instant.Reaches (now : Instant) (days : Nat) : Prop :=
  now.nanos + days * 86400 * 1000000000 ≤ latest.nanos

instance (now : Instant) (days : Nat) : Decidable (now.Reaches days) :=
  inferInstanceAs (Decidable (_ ≤ _))

variable {now notBefore notAfter : Instant} {days : Nat}

/-! ### Spans of days -/

/-- Days that end in time are no more seconds than a span can have. -/
theorem Instant.Reaches.nanos_ofDays (hnow : 0 ≤ now.nanos) (h : now.Reaches days) :
    ((Duration.ofDays days).nanos : Int) = days * 86400 * 1000000000 := by
  simp only [Reaches, latest] at h
  have hdays : days * 86400 ≤ Duration.maxSeconds := by
    simp only [Duration.maxSeconds, UInt64.size]
    omega
  simp only [Duration.ofDays, Duration.ofSeconds, Duration.nanosPerSecond, Nat.min_eq_left hdays]
  push_cast
  rfl

/-- A span of days that is cut short ends too late all the same. -/
theorem Instant.reaches_iff (hnow : 0 ≤ now.nanos) :
    now.Reaches days ↔ now.nanos + (Duration.ofDays days).nanos ≤ latest.nanos := by
  constructor
  · intro h
    rw [h.nanos_ofDays hnow]
    exact h
  · intro h
    -- where a span is cut short, it ends past the latest moment, so `h` says that it is not
    simp only [Reaches, latest, Duration.ofDays, Duration.ofSeconds, Duration.nanosPerSecond,
      Duration.maxSeconds, UInt64.size] at h ⊢
    omega

/-- Days that end in time make a window of exactly these days. -/
theorem Template.window?_ofDays (hnow : 0 ≤ now.nanos) (h : now.Reaches days) :
    ∃ notBefore notAfter, window? now (.ofDays days) = some (notBefore, notAfter) ∧
      Window now days notBefore notAfter := by
  have hstart : (now.sub clockSkew).nanos = now.nanos - 300 * 1000000000 := rfl
  have hfinish : (⟨now.nanos + (Duration.ofDays days).nanos⟩ : Instant).nanos =
      now.nanos + days * 86400 * 1000000000 := congrArg (now.nanos + ·) (h.nanos_ofDays hnow)
  refine ⟨_, _, window?_of_le ((Instant.reaches_iff hnow).1 h), hstart, hfinish, ?_⟩
  omega

theorem Template.window?_ofDays_of_late (hnow : 0 ≤ now.nanos) (h : ¬ now.Reaches days) :
    window? now (.ofDays days) = none :=
  window?_of_not_le (mt (Instant.reaches_iff hnow).2 h)

/-! ### Templates -/

/-- If nothing else is wrong, a template made now is valid for so many days, and is not made if they end
too late. -/
def Template.LastsDays (now : Instant) (validity : Duration) (days : Nat) : Prop :=
  ∀ (κ : Type) (publicKey : Option κ) (id : NodeIdentity) (services : List ServiceEndpoint),
    Acceptable id services →
      (now.Reaches days → ∃ t, build now id services publicKey validity = .ok t ∧
        Window now days t.notBefore t.notAfter) ∧
      (¬ now.Reaches days → build now id services publicKey validity =
        .error (.invalidIdentity (.validity validity)))

theorem Template.lastsDays (hnow : 0 ≤ now.nanos) (days : Nat) :
    LastsDays now (.ofDays days) days := by
  intro κ publicKey id services acceptable
  constructor
  · intro reaches
    obtain ⟨t, hbuild⟩ := exists_build publicKey acceptable ((Instant.reaches_iff hnow).1 reaches)
    obtain ⟨notBefore, notAfter, hwindow, window⟩ := window?_ofDays hnow reaches
    obtain ⟨rfl, rfl⟩ : notBefore = t.notBefore ∧ notAfter = t.notAfter := by
      simpa using hwindow.symm.trans (window_of_build hbuild)
    exact ⟨t, hbuild, window⟩
  · intro late
    exact build_of_late publicKey acceptable (mt (Instant.reaches_iff hnow).2 late)

/-! ### Authorities -/

namespace CertificateAuthority

/-- The certificate of an authority says in whole seconds when it begins and ends to be valid. -/
def SaysWindow (a : CertificateAuthority) (now : Instant) (days : Nat) : Prop :=
  ∃ certificate, certificateIn? a.certificatePem = some certificate ∧
    certificate.notBefore.toSeconds = now.seconds - 300 ∧
    certificate.notAfter.toSeconds = now.seconds + days * 86400

/-- A new authority that is made now is valid for so many days, and is not made if they end too late.
Whether it is made otherwise is up to the signing, which draws its nonce from the key and from what is
signed, so that the answers determine the end. Of a name that is not very long the
certificate can be read back. -/
def LastsDays (now : Instant) (validity : Duration) (days : Nat) : Prop :=
  ∀ (commonName : String) (entropy : Vector UInt8 KeyPair.entropySize)
    (serial : Vector UInt8 serialSize),
    (now.Reaches days → ∃ notBefore notAfter, Window now days notBefore notAfter ∧
      ∀ r, Generates commonName validity entropy serial now r ↔
        r = signOwn commonName (.ofEntropy entropy.toList) (serialOf serial.toList)
          notBefore notAfter) ∧
    (now.Reaches days → (Utf8.encode commonName).length < UInt32.size → ∀ a,
      Generates commonName validity entropy serial now (.ok a) → a.SaysWindow now days) ∧
    (¬ now.Reaches days → ∀ r, Generates commonName validity entropy serial now r ↔
      r = .error (.signing (.validity validity)))

/-- What the certificate of an authority says, read back. -/
theorem saysWindow_of_signOwn {commonName : String} {entropy serial : Bytes}
    {a : CertificateAuthority} (hnow : 0 ≤ now.nanos) (reaches : now.Reaches days)
    (window : Window now days notBefore notAfter) (hserial : serial.length = serialSize)
    (hname : (Utf8.encode commonName).length < UInt32.size)
    (h : signOwn commonName (.ofEntropy entropy) serial notBefore notAfter = .ok a) :
    a.SaysWindow now days := by
  obtain ⟨der, hsign, rfl⟩ := signOwn_eq_ok_iff.1 h
  obtain ⟨certificate, hread, readFrom, -⟩ :=
    exists_ofDer?_ownCertificate hsign (length_lt_of_sign? hserial hname hsign)
  have hbefore : certificate.notBefore = .ofInstant notBefore := readFrom.notBefore
  have hafter : certificate.notAfter = .ofInstant notAfter := readFrom.notAfter
  have hstart := window.start
  have hfinish := window.finish
  have hlast : notAfter.nanos ≤ Instant.latest.nanos := hfinish ▸ reaches
  have hseconds : notBefore.seconds = now.seconds - 300 := by
    simp only [Instant.seconds]
    omega
  have hseconds' : notAfter.seconds = now.seconds + days * 86400 := by
    simp only [Instant.seconds]
    omega
  have hpositive : 0 ≤ now.seconds := Int.ediv_nonneg hnow (by decide)
  refine ⟨certificate, hread, ?_, ?_⟩
  · rw [hbefore, X509.Time.toSeconds_ofInstant (by omega) (window.ordered.le.trans hlast), hseconds]
  · rw [hafter, X509.Time.toSeconds_ofInstant (by omega) hlast, hseconds']

theorem lastsDays (hnow : 0 ≤ now.nanos) (days : Nat) : LastsDays now (.ofDays days) days := by
  intro commonName entropy serial
  refine ⟨fun reaches => ?_, fun reaches hname a h => ?_, fun late r => ?_⟩
  · obtain ⟨notBefore, notAfter, hwindow, window⟩ := Template.window?_ofDays hnow reaches
    exact ⟨notBefore, notAfter, window, fun r => by
      rw [generates_iff, selfSigned_of_window hwindow]⟩
  · obtain ⟨notBefore, notAfter, hwindow, window⟩ := Template.window?_ofDays hnow reaches
    rw [generates_iff, selfSigned_of_window hwindow] at h
    exact saysWindow_of_signOwn hnow reaches window (length_serialOf serial) hname h.symm
  · rw [generates_iff, selfSigned_of_late (Template.window?_ofDays_of_late hnow late)]

end CertificateAuthority

/-! ### The days that are set -/

namespace Config

/-- Whatever the environment sets, certificates are valid for exactly so many days, or are not made if
these end too late. -/
theorem validity_exact (lookup : String → Option String) (hnow : 0 ≤ now.nanos) :
    (∃! days, Sets 365 (lookup "NODE_CERT_VALIDITY_DAYS") days) ∧
    (∃! days, Sets 3650 (lookup "CA_CERT_VALIDITY_DAYS") days) ∧
    (∀ days, Sets 365 (lookup "NODE_CERT_VALIDITY_DAYS") days →
      Template.LastsDays now (ofEnvironment lookup).nodeValidity days) ∧
    ∀ days, Sets 3650 (lookup "CA_CERT_VALIDITY_DAYS") days →
      CertificateAuthority.LastsDays now (ofEnvironment lookup).authorityValidity days := by
  refine ⟨existsUnique_sets _ _, existsUnique_sets _ _, fun days h => ?_, fun days h => ?_⟩
  · rw [nodeValidity, (sets_nodeValidityDays lookup).1 h]
    exact Template.lastsDays hnow days
  · rw [authorityValidity, (sets_authorityValidityDays lookup).1 h]
    exact CertificateAuthority.lastsDays hnow days

/-- With 90 days for nodes, and the most that can be written for an authority: on 1 January 2025 the one
can be, the other cannot. With one day for an authority, one is made on this day of octets that are all
zero, and says so. -/
theorem validity_exact_new_year :
    let lookup : String → Option String := fun name =>
      if name = "NODE_CERT_VALIDITY_DAYS" then some "+90" else some "18446744073709551615"
    let brief : String → Option String := fun name =>
      if name = "CA_CERT_VALIDITY_DAYS" then some "1" else none
    let now := Instant.ofSeconds 1735689600
    (0 : Int) ≤ now.nanos ∧ now.Reaches 90 ∧ ¬ now.Reaches (2 ^ 64 - 1) ∧
      Template.LastsDays now (ofEnvironment lookup).nodeValidity 90 ∧
      CertificateAuthority.LastsDays now (ofEnvironment lookup).authorityValidity (2 ^ 64 - 1) ∧
      now.Reaches 1 ∧ ∃ a, CertificateAuthority.Generates "demo-ca"
        (ofEnvironment brief).authorityValidity (.replicate _ 0) (.replicate _ 0) now (.ok a) ∧
        a.SaysWindow now 1 := by
  intro lookup brief now
  have hnow : (0 : Int) ≤ now.nanos := by decide
  have hnode : Sets 365 (some "+90") 90 := sets_iff.2 (by decide)
  have hauthority : Sets 3650 (some "18446744073709551615") (2 ^ 64 - 1) := sets_iff.2 (by decide)
  have hbrief : Sets 3650 (some "1") 1 := sets_iff.2 (by decide)
  have hone : now.Reaches 1 := by decide
  obtain ⟨-, -, templates, authorities⟩ := validity_exact lookup hnow
  obtain ⟨-, -, -, briefAuthorities⟩ := validity_exact brief hnow
  obtain ⟨a, hself⟩ := CertificateAuthority.exists_selfSigned_blank
  have hvalidity : (ofEnvironment brief).authorityValidity = .ofSeconds 86400 := by decide
  have generates : CertificateAuthority.Generates "demo-ca" (ofEnvironment brief).authorityValidity
      (.replicate _ 0) (.replicate _ 0) now (.ok a) := by
    rw [hvalidity]
    exact CertificateAuthority.generates_iff.2 hself.symm
  obtain ⟨-, window, -⟩ := briefAuthorities 1 hbrief "demo-ca" (.replicate _ 0) (.replicate _ 0)
  exact ⟨hnow, by decide, by decide, templates 90 hnode, authorities _ hauthority, hone, a, generates,
    window hone (by decide) a generates⟩

end Config

end NodePki
