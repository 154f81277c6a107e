import NodePki.Proofs.Ensure.Authority
import NodePki.Proofs.Ensure.Frame
import NodePki.Proofs.Store.Pool

/-!
# Calls for the authority of one cluster

Calls for the secret of one authority, side by side over any store in memory. Who creates the secret
answers the authority that it generated; all others load what they find. Both come to the same, so
all who succeed answer the authority of the secret that the store keeps (`AuthorityRace.converges`).
If there was no secret nobody fails but for a generation of its own; if there was one nothing
changes, and who ends answers what that secret is loaded to: an error for a secret of no use
(`Kube.Secret.unusable_iff`).
-/

namespace NodePki

/-! ## What a secret is loaded to -/

namespace Kube.Secret

/-- A secret holds the certificate of an authority, octet by octet, and its key. -/
structure Holds (s : Secret) (a : CertificateAuthority) : Prop where
  certificate : s.octets? Entry.authorityCertificate = some (Utf8.encode a.certificatePem)
  key : ∃ keyPem block, s.octets? Entry.authorityKey = some (Utf8.encode keyPem) ∧
    Pem.document? keyPem = some block ∧ KeyPair.ofDocument? block.contents = some a.key

/-- The entries of an authority's secret. -/
def IsAuthorityEntry (key : String) : Prop :=
  key = Entry.authorityCertificate ∨ key = Entry.authorityKey

/-- No authority can be loaded from a secret: an entry is missing or no text, or the two texts are not
a certificate and a key that can be loaded. -/
inductive Unusable (s : Secret) : Prop
  | missing {key : String} (isEntry : IsAuthorityEntry key) (missing : s.octets? key = none)
  | notText {key : String} {octets : Bytes} {cause : Utf8.Error} (isEntry : IsAuthorityEntry key)
      (found : s.octets? key = some octets) (refused : Utf8.decode octets = .error cause)
  | notLoadable {certificatePem keyPem : String} {e : Error}
      (certificate : s.octets? Entry.authorityCertificate = some (Utf8.encode certificatePem))
      (key : s.octets? Entry.authorityKey = some (Utf8.encode keyPem))
      (refused : CertificateAuthority.ofPem certificatePem keyPem = .error e)

variable {s : Secret} {name key : String} {a : CertificateAuthority} {e : Error}

/-- An entry that is no text. -/
theorem unusable_of_text (isEntry : IsAuthorityEntry key) (h : s.text name key = .error e) :
    s.Unusable := by
  rw [text] at h
  split at h
  · next missing => exact .missing isEntry missing
  · next octets found =>
    split at h
    · cases h
    · next cause refused => exact .notText isEntry found refused

/-- A secret is of no use exactly if it cannot be loaded. -/
theorem unusable_iff : s.Unusable ↔ ∃ e, authorityOfSecret s name = .error e := by
  constructor
  · intro unusable
    cases hload : authorityOfSecret s name with
    | error e => exact ⟨e, rfl⟩
    | ok a =>
      obtain ⟨certificatePem, keyPem, hcertificate, hkey, hload⟩ :=
        authorityOfSecret_eq_ok_iff.1 hload
      have htext : ∀ {key}, IsAuthorityEntry key →
          ∃ text, s.octets? key = some (Utf8.encode text) := by
        rintro _ (rfl | rfl)
        · exact ⟨_, hcertificate⟩
        · exact ⟨_, hkey⟩
      cases unusable with
      | missing isEntry missing =>
        obtain ⟨text, htext⟩ := htext isEntry
        rw [missing] at htext
        cases htext
      | notText isEntry found refused =>
        obtain ⟨text, htext⟩ := htext isEntry
        rw [found, Option.some.injEq] at htext
        rw [htext, Utf8.decode_encode] at refused
        cases refused
      | notLoadable certificate key refused =>
        rw [hcertificate, Option.some.injEq] at certificate
        rw [hkey, Option.some.injEq] at key
        rw [← Utf8.encode_injective certificate, ← Utf8.encode_injective key, hload] at refused
        cases refused
  · rintro ⟨e, h⟩
    rw [authorityOfSecret] at h
    cases hcertificate : s.text name Entry.authorityCertificate with
    | error cause => exact unusable_of_text (.inl rfl) hcertificate
    | ok certificatePem =>
      cases hkey : s.text name Entry.authorityKey with
      | error cause => exact unusable_of_text (.inr rfl) hkey
      | ok keyPem =>
        simp only [hcertificate, hkey, bind, Except.bind] at h
        exact .notLoadable (text_eq_ok.1 hcertificate) (text_eq_ok.1 hkey) h

theorem holds_of_authorityOfSecret (h : authorityOfSecret s name = .ok a) : s.Holds a := by
  obtain ⟨certificatePem, keyPem, hcertificate, hkey, hload⟩ := authorityOfSecret_eq_ok_iff.1 h
  obtain ⟨rfl, hread, -⟩ := CertificateAuthority.ofPem_eq_ok_iff.1 hload
  obtain ⟨block, hblock, hdocument⟩ := Option.bind_eq_some_iff.1 hread
  exact ⟨hcertificate, keyPem, block, hkey, hblock, hdocument⟩

end Kube.Secret

/-! ## The calls -/

/-- Calls for the secret of one authority, over any store. -/
structure AuthorityRace where
  ns : String
  clusterName : String
  calls : List AuthorityCall
  store : MemoryStore
  same : ∀ c ∈ calls, c.ns = ns ∧ c.clusterName = clusterName

namespace AuthorityRace

variable {race : AuthorityRace} {s : Kube.Secret} {a : CertificateAuthority} {e : Error} {i : Nat}
  {c : AuthorityCall} {m' : MemoryStore} {h : History (SecretStore.sum Surroundings)}
  {cs' : List (Storing (Except Error CertificateAuthority))}

/-- The name of the secret. -/
def name (race : AuthorityRace) : String := SecretName.authority race.clusterName

/-- The calls before the first step. -/
def start (race : AuthorityRace) : Pool (Except Error CertificateAuthority) :=
  .start race.store (race.calls.map AuthorityCall.program)

/-- An order of steps of the calls. -/
abbrev Runs (race : AuthorityRace) (h : History (SecretStore.sum Surroundings)) (m' : MemoryStore)
    (cs' : List (Storing (Except Error CertificateAuthority))) : Prop :=
  Interleaving MemoryStore.Replies race.store (race.calls.map AuthorityCall.program) h m' cs'

theorem ns_eq (hc : c ∈ race.calls) : c.ns = race.ns := (race.same c hc).1

theorem name_eq (hc : c ∈ race.calls) : c.secretName = race.name := by
  rw [AuthorityCall.secretName, name, (race.same c hc).2]

/-- What is created was generated by a call, is loaded to what was generated, and has the name of the
race. -/
theorem created_by (hr : race.Runs h m' cs') (hs : s ∈ h.all.created) :
    (∃ a, authorityOfSecret s race.name = .ok a) ∧ s.isAt race.ns race.name := by
  obtain ⟨j, c, f, hc, made, -⟩ := Ensured.created_by AuthorityCall.along hr hs
  have hmem := List.mem_of_getElem? hc
  rw [← ns_eq hmem, ← name_eq hmem]
  refine ⟨⟨f s, AuthorityCall.judge_of_makes made⟩, ?_⟩
  obtain ⟨a, -, rfl, -⟩ := made
  exact c.isAt_secret a

/-- The created secrets are the one that is kept, if there was none before. -/
theorem created_eq (hr : race.Runs h m' cs') :
    h.all.created = if (race.store.get? race.ns race.name).isSome then []
      else (m'.get? race.ns race.name).toList := by
  rw [← MemoryStore.created_at hr.happens]
  exact (List.filter_eq_self.2 fun _ hs => (created_by hr hs).2).symm

/-- Who succeeds answers the authority of the secret that is kept. -/
theorem loaded_of_ok (hr : race.Runs h m' cs') (hi : cs'[i]? = some (.done (.ok a))) :
    ∃ s, m'.get? race.ns race.name = some s ∧ authorityOfSecret s race.name = .ok a := by
  obtain ⟨c, hc⟩ := Ensured.exists_call hr hi
  have hmem := List.mem_of_getElem? hc
  have hends := Ensured.ends AuthorityCall.along hr hc hi
  rw [← ns_eq hmem, ← name_eq hmem]
  exact AuthorityCall.loaded_of_ok hr.happens (h.client_sublist i) hends

/-- Who fails could not generate, or load the secret that is kept. -/
theorem cause_of_error (hr : race.Runs h m' cs') (hc : race.calls[i]? = some c)
    (hi : cs'[i]? = some (.done (.error e))) :
    c.Generates (h.client i) (.error e) ∨
      ∃ s, m'.get? race.ns race.name = some s ∧ authorityOfSecret s race.name = .error e := by
  have hmem := List.mem_of_getElem? hc
  have hends := Ensured.ends AuthorityCall.along hr hc hi
  rw [← ns_eq hmem, ← name_eq hmem]
  rcases Ensured.cause_of_error hr.happens (h.client_sublist i) hends with
    ⟨refused, -⟩ | ⟨generates, -⟩ | judged
  · exact refused.elim
  · exact .inl generates
  · exact .inr judged

section Absent

variable (absent : race.store.get? race.ns race.name = none)

include absent

theorem created_eq_toList (hr : race.Runs h m' cs') :
    h.all.created = (m'.get? race.ns race.name).toList := by
  rw [created_eq hr, absent]
  rfl

/-- Over a store without the secret a call fails for its own generation only. -/
theorem generates_of_error (hr : race.Runs h m' cs') (hc : race.calls[i]? = some c)
    (hi : cs'[i]? = some (.done (.error e))) : c.Generates (h.client i) (.error e) := by
  rcases cause_of_error hr hc hi with generates | ⟨s, hkept, hload⟩
  · exact generates
  · have hs : s ∈ h.all.created := by
      rw [created_eq_toList absent hr, hkept]
      exact List.mem_singleton_self s
    obtain ⟨⟨a, ha⟩, -⟩ := created_by hr hs
    rw [ha] at hload
    cases hload

end Absent

section Present

variable (present : race.store.get? race.ns race.name = some s)

include present

/-- Over a store with the secret nothing changes. -/
theorem unchanged (hr : race.Runs h m' cs') : h.all.created = [] ∧ m' = race.store := by
  have hcreated : h.all.created = [] := by
    rw [created_eq hr, present]
    rfl
  exact ⟨hcreated, MemoryStore.eq_of_created_eq_nil hr.happens hcreated⟩

/-- Over a store with the secret each call that ends answers what the secret is loaded to. -/
theorem result_eq (hr : race.Runs h m' cs') {r : Except Error CertificateAuthority}
    (hi : cs'[i]? = some (.done r)) : r = authorityOfSecret s race.name := by
  obtain ⟨-, rfl⟩ := unchanged present hr
  cases r with
  | ok a =>
    obtain ⟨s', hkept, hload⟩ := loaded_of_ok hr hi
    rw [present, Option.some.injEq] at hkept
    rw [hkept, hload]
  | error e =>
    obtain ⟨c, hc⟩ := Ensured.exists_call hr hi
    rcases cause_of_error hr hc hi with ⟨during, after, htrace, -⟩ | ⟨s', hkept, hload⟩
    · -- a call generates only after it read that there is no secret
      have hmem := List.mem_of_getElem? hc
      have hread : ⟨.inl (.get c.ns c.secretName), .ok none⟩ ∈ h.client i := by
        rw [htrace]
        exact List.mem_cons_self
      rw [ns_eq hmem, name_eq hmem] at hread
      exact absurd (History.mem_all_of_mem_client hread)
        (MemoryStore.not_absent_of_kept hr.happens present)
    · rw [present, Option.some.injEq] at hkept
      rw [hkept, hload]

end Present

/-- Whatever the store holds and in whatever order the calls take their steps, all that succeed answer
the authority whose certificate and key the store keeps. If there was no secret, one is created at
most, and one if any call succeeds; a call fails for its own generation only, and succeeds if that
does not fail and it gets its turn again and again. If there was a secret, nothing is created and
nothing changes, and each call that ends answers what the secret is loaded to, which is an error if it
is of no use. Every call ends that gets its turn again and again. -/
theorem converges (race : AuthorityRace) (schedule : Nat → Nat × Answers) :
    let p := race.start.after schedule
    let h := race.start.historyAfter schedule
    (∀ n i a, (p n).result? i = some (.ok a) →
      ∃ s, (p n).store.get? race.ns race.name = some s ∧ s.Holds a) ∧
    (race.store.get? race.ns race.name = none →
      (∀ n, (h n).all.created = ((p n).store.get? race.ns race.name).toList ∧
        (p n).store.creates = race.store.creates + (h n).all.created.length ∧
        (∀ i a, (p n).result? i = some (.ok a) → (h n).all.created.length = 1) ∧
        ∀ i c e, race.calls[i]? = some c → (p n).result? i = some (.error e) →
          c.Generates ((h n).client i) (.error e)) ∧
      ∀ i c, race.calls[i]? = some c → (∀ n e, ¬ c.Generates ((h n).client i) (.error e)) →
        (∀ n, ∃ k ≥ n, (schedule k).1 = i) → ∃ n a, (p n).result? i = some (.ok a)) ∧
    (∀ s, race.store.get? race.ns race.name = some s →
      ∀ n, (h n).all.created = [] ∧ (p n).store = race.store ∧
        ∀ i r, (p n).result? i = some r →
          r = authorityOfSecret s race.name ∧ (s.Unusable → ∃ e, r = .error e)) ∧
    ∀ i c, race.calls[i]? = some c → (∀ n, ∃ k ≥ n, (schedule k).1 = i) →
      ∃ n r, (p n).result? i = some r := by
  intro p h
  have hr : ∀ n, race.Runs (h n) (p n).store (p n).clients := fun n =>
    race.start.interleaving ((List.range n).map schedule)
  have hends : ∀ i c, race.calls[i]? = some c → (∀ n, ∃ k ≥ n, (schedule k).1 = i) →
      ∃ n r, (p n).result? i = some r := by
    intro i c hc hturns
    refine race.start.exists_done ?_ hturns
    simpa [start, Pool.start] using (List.getElem?_eq_some_iff.1 hc).1
  refine ⟨?_, fun absent => ⟨fun n => ⟨?_, ?_, ?_, ?_⟩, ?_⟩, ?_, hends⟩
  · intro n i a hi
    obtain ⟨s, hkept, hload⟩ := loaded_of_ok (hr n) (Pool.result?_eq_some.1 hi)
    exact ⟨s, hkept, Kube.Secret.holds_of_authorityOfSecret hload⟩
  · exact created_eq_toList absent (hr n)
  · exact MemoryStore.creates_of_happens (hr n).happens
  · intro i a hi
    obtain ⟨s, hkept, -⟩ := loaded_of_ok (hr n) (Pool.result?_eq_some.1 hi)
    rw [created_eq_toList absent (hr n), hkept]
    rfl
  · intro i c e hc hi
    exact generates_of_error absent (hr n) hc (Pool.result?_eq_some.1 hi)
  · intro i c hc hgenerates hturns
    obtain ⟨n, r, hn⟩ := hends i c hc hturns
    cases r with
    | ok a => exact ⟨n, a, hn⟩
    | error e =>
      exact absurd (generates_of_error absent (hr n) hc (Pool.result?_eq_some.1 hn))
        (hgenerates n e)
  · intro s present n
    obtain ⟨hcreated, hstore⟩ := unchanged present (hr n)
    refine ⟨hcreated, hstore, fun i r hi => ?_⟩
    have hresult := result_eq present (hr n) (Pool.result?_eq_some.1 hi)
    exact ⟨hresult, fun unusable => hresult ▸ Kube.Secret.unusable_iff.1 unusable⟩

/-- Two calls over an empty store. -/
def pair : AuthorityRace where
  ns := "prod"
  clusterName := "demo"
  calls := [.daily "demo", .daily "demo"]
  store := .empty
  same := by simp [AuthorityCall.daily]

/-- One after the other, the first generates an authority and creates its secret, the second loads it. -/
theorem converges_pair : ∃ schedule n a s,
    (pair.start.after schedule n).result? 0 = some (.ok a) ∧
    (pair.start.after schedule n).result? 1 = some (.ok a) ∧
    (pair.start.historyAfter schedule n).all.created = [s] ∧
    (pair.start.after schedule n).store.get? "prod" pair.name = some s ∧ s.Holds a := by
  obtain ⟨t, a, run, generates, happens⟩ :=
    AuthorityCall.exists_creating AuthorityCall.canGenerate_daily
  obtain ⟨m, replies, added⟩ := happens .empty rfl
  obtain ⟨u, run', happens'⟩ :=
    AuthorityCall.exists_loading (AuthorityCall.loads_of_generates generates).2
  have hcall : (pair.calls.map AuthorityCall.program)[0]? =
      some (AuthorityCall.daily "demo").program := rfl
  have hcall' : (pair.calls.map AuthorityCall.program)[1]? =
      some (AuthorityCall.daily "demo").program := rfl
  obtain ⟨steps, -, hfirst, hsecond⟩ := Pool.exists_in_turn Nat.zero_ne_one hcall run replies
    hcall' run' (happens' m added.get?_self)
  obtain ⟨schedule, n, hafter, -⟩ := pair.start.exists_after steps
  obtain ⟨holds, absent, -⟩ := pair.converges schedule
  have hfirst : (pair.start.after schedule n).result? 0 = some (.ok a) := by
    rw [hafter]
    exact hfirst
  have hsecond : (pair.start.after schedule n).result? 1 = some (.ok a) := by
    rw [hafter]
    exact hsecond
  obtain ⟨s, hs, hholds⟩ := holds n 0 a hfirst
  obtain ⟨hcreated, -⟩ := (absent rfl).1 n
  rw [show pair.ns = "prod" from rfl] at hs
  refine ⟨schedule, n, a, s, hfirst, hsecond, ?_, hs, hholds⟩
  rw [hcreated, show pair.ns = "prod" from rfl, hs]
  rfl

end AuthorityRace

end NodePki
