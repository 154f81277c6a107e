import NodePki.Proofs.AuthorityKey
import NodePki.Proofs.Ensure.Authority
import NodePki.Proofs.Store.Pool

/-!
# The keys of authorities that are ensured

A call answers an authority that was generated, or one that is loaded from a secret that was there. The
former is consistent (`AuthorityCall.isConsistent_of_generates`). The latter is what the two texts of
the secret make of it, and these need not belong together (`CertificateAuthority.ofPem_not_consistent`).
-/

namespace NodePki

namespace AuthorityCall

variable {c : AuthorityCall} {a : CertificateAuthority}

theorem isConsistent_of_generates {t : Trace (SecretStore.sum Surroundings)}
    (h : c.Generates t (.ok a)) : a.IsConsistent := by
  obtain ⟨during, -, -, hgenerate⟩ := h
  exact CertificateAuthority.isConsistent_of_generate hgenerate c.length_secretName_lt

/-- Where there was no secret, the authority that is answered is consistent; where there was one, it is
the one that this is loaded to. -/
theorem consistent_of_ok {calls : List AuthorityCall} {m m' : MemoryStore} {i : Nat}
    {h : History (SecretStore.sum Surroundings)}
    {cs' : List (Storing (Except Error CertificateAuthority))}
    (hr : Interleaving MemoryStore.Replies m (calls.map program) h m' cs')
    (hc : calls[i]? = some c) (hi : cs'[i]? = some (.done (.ok a))) :
    (m.get? c.ns c.secretName = none → a.IsConsistent) ∧
      ∀ s, m.get? c.ns c.secretName = some s → authorityOfSecret s c.secretName = .ok a := by
  constructor
  · intro hnone
    obtain ⟨c₀, -, -, -, t, generates⟩ := generated_of_ok hr hc hi hnone
    exact isConsistent_of_generates generates
  · intro s hs
    obtain ⟨root, hkept, hload⟩ :=
      loaded_of_ok hr.happens (h.client_sublist i) (Ensured.ends along hr hc hi)
    rw [MemoryStore.grows_of_happens hr.happens hs, Option.some.injEq] at hkept
    rwa [hkept]

end AuthorityCall

namespace CertificateAuthority

variable {a : CertificateAuthority}

/-- The certificate of a consistent authority is for the keys with its public key only. -/
theorem isConsistent_of_key_iff (h : a.IsConsistent) (key : KeyPair) :
    IsConsistent { a with key } ↔
      X509.Reader.within X509.PublicKeyInfo.read key.publicKey.info =
        X509.Reader.within X509.PublicKeyInfo.read a.key.publicKey.info := by
  obtain ⟨certificate, hread, hkey⟩ := h
  constructor
  · rintro ⟨certificate', hread', hkey'⟩
    rw [hread, Option.some.injEq] at hread'
    subst hread'
    exact hkey'.trans hkey.symm
  · intro hsame
    exact ⟨certificate, hread, hsame.trans hkey⟩

/-- A key with its document. -/
def ofSeed (seed : Bytes) : KeyPair where
  secret := .ed25519 seed
  document := Der.sequence [
    Der.natural 0,
    Der.sequence [(SecretKey.ed25519 seed).keyAlgorithm],
    Der.octetString (Der.octetString seed)]

/-- Two keys that can be read. -/
def firstKey : KeyPair := ofSeed (List.replicate 32 0x01)

def secondKey : KeyPair := ofSeed (List.replicate 32 0x02)

theorem exists_ofPem_firstKey : ∃ pem,
    ofPem pem firstKey.pem = .ok ⟨.ofCommonName "demo-ca", firstKey, pem⟩ ∧
      IsConsistent ⟨.ofCommonName "demo-ca", firstKey, pem⟩ := by
  let own := ownCertificate "demo-ca" firstKey (List.replicate 16 0x01) (.ofSeconds 0)
    (.ofSeconds 86400)
  have hkey : KeyPair.ofDocument? firstKey.document = some firstKey := by decide +kernel
  have hinfo : firstKey.publicKey.info.length < UInt64.size := by decide +kernel
  have hshort : (own.sign? firstKey.secret).any (·.length < UInt64.size) := by decide +kernel
  obtain ⟨der, hsign, hlt⟩ := (Option.any_eq_true ..).1 hshort
  have hlt := of_decide_eq_true hlt
  have positive : Der.IsPositive (List.replicate 16 0x01) :=
    ⟨0x01, List.replicate 15 0x01, rfl, by decide, by decide⟩
  have loaded := ofPem_ownCertificate hkey positive (by decide) (by decide) hsign hlt
  exact ⟨_, loaded, isConsistent_ownCertificate hsign hlt hinfo⟩

end CertificateAuthority

end NodePki
