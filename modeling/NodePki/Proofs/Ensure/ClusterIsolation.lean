import NodePki.Proofs.Ensure.Authority
import NodePki.Proofs.Secret.Name
import NodePki.Proofs.Store.Pool

/-!
# Authorities of other clusters

When clusters share a root of trust. The secret of an authority is loaded without a look at the
label that says whose it is, so all depends on the names, as with pods: `separateRoots_iff` says that
the clusters of calls have roots of their own exactly if no two of them, in one namespace, meet under
one name. That is enough as well, since authorities with other names have other certificates
(`meets_of_certificatePem_eq`). Names do meet, as small letters are written for capital ones, dashes
for underscores, and one dash for a run of them (`not_separateRoots_case`); clusters whose names have
none of these are separate (`separateRoots_of_plain`).
-/

namespace NodePki.AuthorityCall

/-- Two calls are for one name. -/
structure Meets (c c' : AuthorityCall) : Prop where
  ns : c.ns = c'.ns
  secretName : c.secretName = c'.secretName

/-- In no run over the empty store are two calls of one namespace, for different clusters, answered
the same certificate. -/
def SeparateRoots (calls : List AuthorityCall) : Prop :=
  ∀ schedule i j c c' a a', calls[i]? = some c → calls[j]? = some c' →
    c.ns = c'.ns → c.clusterName ≠ c'.clusterName →
    ((Pool.start .empty (calls.map program)).run schedule).result? i = some (.ok a) →
    ((Pool.start .empty (calls.map program)).run schedule).result? j = some (.ok a') →
      a.certificatePem ≠ a'.certificatePem

variable {calls : List AuthorityCall} {c c' : AuthorityCall} {a a' : CertificateAuthority}
  {i j : Nat} {m' : MemoryStore} {h : History (SecretStore.sum Surroundings)}
  {cs' : List (Storing (Except Error CertificateAuthority))}

/-- Over the empty store a call that succeeds answers an authority that a call which it meets
generated, named like the secret, and loaded from texts. -/
theorem exists_generator (hr : Interleaving MemoryStore.Replies .empty (calls.map program) h m' cs')
    (hc : calls[i]? = some c) (hi : cs'[i]? = some (.done (.ok a))) :
    (∃ c₀ ∈ calls, c₀.CanGenerate ∧ c₀.Meets c) ∧ a.issuer = .ofCommonName c.secretName ∧
      ∃ keyPem, CertificateAuthority.ofPem a.certificatePem keyPem = .ok a := by
  obtain ⟨c₀, hc₀, hns, hname, t, generates⟩ := generated_of_ok hr hc hi rfl
  obtain ⟨hissuer, hload⟩ := loads_of_generates generates
  obtain ⟨certificatePem, keyPem, -, -, hpem⟩ := authorityOfSecret_eq_ok_iff.1 hload
  rw [← (CertificateAuthority.ofPem_eq_ok_iff.1 hpem).1] at hpem
  obtain ⟨during, -, -, hgenerate⟩ := generates
  exact ⟨⟨c₀, hc₀, ⟨during, a, hgenerate⟩, hns, hname⟩, hname ▸ hissuer, keyPem, hpem⟩

/-- Calls of one namespace that are answered one certificate meet. -/
theorem meets_of_certificatePem_eq
    (hr : Interleaving MemoryStore.Replies .empty (calls.map program) h m' cs')
    (hc : calls[i]? = some c) (hc' : calls[j]? = some c') (hns : c.ns = c'.ns)
    (hi : cs'[i]? = some (.done (.ok a))) (hj : cs'[j]? = some (.done (.ok a')))
    (hpem : a.certificatePem = a'.certificatePem) : c.Meets c' := by
  obtain ⟨-, hissuer, keyPem, hload⟩ := exists_generator hr hc hi
  obtain ⟨-, hissuer', keyPem', hload'⟩ := exists_generator hr hc' hj
  -- one certificate names one issuer, and each issuer is the name of the secret it was made for
  rw [hpem] at hload
  have hnames := CertificateAuthority.issuer_eq_of_ofPem hload hload'
  rw [hissuer, hissuer'] at hnames
  exact ⟨hns, X509.DistinguishedName.ofCommonName_injective hnames⟩

/-- Where no two clusters meet under one name they have roots of their own. -/
theorem separateRoots_of_separate (hseparate : ∀ c ∈ calls, c.CanGenerate → ∀ c' ∈ calls,
    c.Meets c' → c.clusterName = c'.clusterName) : SeparateRoots calls := by
  intro schedule i j c c' a a' hc hc' hns hne hi hj hpem
  have hr := (Pool.start .empty (calls.map program)).interleaving schedule
  rw [Pool.result?_eq_some] at hi hj
  have hmeets := meets_of_certificatePem_eq hr hc hc' hns hi hj hpem
  obtain ⟨⟨c₀, hc₀, hcan, hfirst⟩, -⟩ := exists_generator hr hc hi
  have hmeets' : c₀.Meets c' := ⟨hfirst.ns.trans hns, hfirst.secretName.trans hmeets.secretName⟩
  refine hne ?_
  rw [← hseparate c₀ hc₀ hcan c (List.mem_of_getElem? hc) hfirst,
    hseparate c₀ hc₀ hcan c' (List.mem_of_getElem? hc') hmeets']

/-- A call that can generate, and then one of another cluster that meets it, have a run in which both
are answered what the first generated. -/
theorem not_separateRoots_of_meets (hc : c ∈ calls) (hc' : c' ∈ calls) (hcan : c.CanGenerate)
    (hmeets : c.Meets c') (hne : c.clusterName ≠ c'.clusterName) : ¬ SeparateRoots calls := by
  intro hseparate
  obtain ⟨i, hi⟩ := List.getElem?_of_mem hc
  obtain ⟨j, hj⟩ := List.getElem?_of_mem hc'
  have hij : i ≠ j := by
    rintro rfl
    rw [hi, Option.some.injEq] at hj
    exact hne (hj ▸ rfl)
  obtain ⟨t, a, hrun, generates, hhappens⟩ := exists_creating hcan
  obtain ⟨m', hm', added⟩ := hhappens .empty rfl
  have hkept := added.get?_self
  have hload := (loads_of_generates generates).2
  rw [hmeets.ns, hmeets.secretName] at hkept
  rw [hmeets.secretName] at hload
  obtain ⟨t', hrun', hhappens'⟩ := exists_loading hload
  obtain ⟨schedule, -, hfirst, hsecond⟩ := Pool.exists_in_turn hij
    (show (calls.map program)[i]? = some c.program by simp [hi]) hrun hm'
    (show (calls.map program)[j]? = some c'.program by simp [hj]) hrun' (hhappens' m' hkept)
  exact hseparate schedule i j c c' a a hi hj hmeets.ns hne hfirst hsecond rfl

/-- The clusters of calls have roots of their own exactly if those that meet one that can generate are
for the same cluster. -/
theorem separateRoots_iff (calls : List AuthorityCall) :
    SeparateRoots calls ↔ ∀ c ∈ calls, c.CanGenerate → ∀ c' ∈ calls, c.Meets c' →
      c.clusterName = c'.clusterName := by
  refine ⟨fun hseparate c hc hcan c' hc' hmeets => ?_, separateRoots_of_separate⟩
  by_contra hne
  exact not_separateRoots_of_meets hc hc' hcan hmeets hne hseparate

/-- Clusters whose names differ in the case of a letter share a root. -/
theorem not_separateRoots_case :
    SecretName.isLabelValue "demo" ∧ SecretName.isLabelValue "Demo" ∧
      ¬ SeparateRoots [daily "demo", daily "Demo"] := by
  refine ⟨by decide, by decide, ?_⟩
  exact not_separateRoots_of_meets List.mem_cons_self (.tail _ List.mem_cons_self)
    canGenerate_daily ⟨rfl, by decide⟩ (by decide)

/-- Clusters named by values of labels without capital letters, underscores and two dashes in a row
have roots of their own. -/
theorem separateRoots_of_plain (hclusters : ∀ c ∈ calls, SecretName.isLabelValue c.clusterName ∧
    (∀ char ∈ c.clusterName.toList, ¬ char.isUpper ∧ char ≠ '_') ∧
    ¬ ['-', '-'] <:+: c.clusterName.toList) : SeparateRoots calls := by
  refine separateRoots_of_separate fun c hc _ c' hc' hmeets => ?_
  obtain ⟨hlabel, hplain, hdash⟩ := hclusters c hc
  obtain ⟨hlabel', hplain', hdash'⟩ := hclusters c' hc'
  have hname := hmeets.secretName
  rw [secretName, secretName, SecretName.authority_eq_authority_iff hlabel hlabel',
    SecretName.map_cleanChar_of_isLabelValue hlabel hplain,
    SecretName.map_cleanChar_of_isLabelValue hlabel' hplain',
    SecretName.collapse_eq_self hdash (by simp),
    SecretName.collapse_eq_self hdash' (by simp)] at hname
  exact String.toList_injective hname

end NodePki.AuthorityCall
