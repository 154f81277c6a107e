import NodePki.Proofs.Encoding.Bundle
import NodePki.Proofs.Ensure.AuthorityKey
import NodePki.Proofs.Program.Interpret

/-!
# Chains

The chain that is issued begins with the certificate that was just signed for the node, and ends with
the text of the authority's own, which may be any text that an authority can be loaded from. Since the
last line of the first is ended (`withNewline_text`), whatever the second is, the chain is summarized as
the certificate of the node (`exists_hasFirst_of_issue`).
-/

namespace NodePki

open Program (Leads)

/-- The texts of a certificate: one block, laid out in any way. -/
abbrev CertificateText (der : Bytes) : Type := (Pem.Block.mk "CERTIFICATE" der).Layout

/-- The summary of a bundle that begins with the text of a certificate is that of the certificate. -/
theorem CertificateSummary.ofPem_text {der : Bytes} (l : CertificateText der) {e : Pem.LineEnd}
    (hend : l.lastEnd = some e) (rest : String) :
    ofPem (Utf8.encode (l.text ++ rest)) = ofDer der := by
  have hlabel : '\n' ∉ "CERTIFICATE".toList := by decide
  rw [ofPem, Utf8.encode_append, l.firstContents_text hlabel hend]

namespace CertificateAuthority

/-! ### The last line -/

/-- The last line of a text is ended, if it is not. -/
theorem withNewline_text {b : Pem.Block} (l : b.Layout) : withNewline l.text = l.ended.text := by
  obtain ⟨cs, hlast, htext, hended⟩ := l.exists_text_eq
  rw [htext, hended, withNewline, String.toList_ofList, Pem.Block.Layout.lastChars]
  cases l.lastEnd with
  | none =>
    have hdash : (cs ++ []).getLast? ≠ some '\n' := by
      rw [List.append_nil, hlast]
      decide
    rw [Option.map_none, Option.getD_none, if_neg hdash, List.append_nil, String.ofList_append]
    rfl
  | some e =>
    have hfeed : (cs ++ e.chars).getLast? = some '\n' := by
      rw [List.getLast?_append, e.getLast?_chars]
      rfl
    rw [Option.map_some, Option.getD_some, if_pos hfeed]
    rfl

/-! ### Runs -/

variable {a : CertificateAuthority} {id : NodeIdentity} {services : List ServiceEndpoint}
  {validity : Duration} {u : Trace Surroundings} {issued : IssuedCertificate}

/-- In a run of `issue` the authority signs a certificate: for the key that the random octets give, and
for the template that is built at the time of the day. -/
def SignsIn (a : CertificateAuthority) (id : NodeIdentity) (services : List ServiceEndpoint)
    (validity : Duration) (u : Trace Surroundings) (key : KeyPair) (signed : SignedCertificate) :
    Prop :=
  ∃ (entropy : Vector UInt8 KeyPair.entropySize) (now : Instant) (t : Template PublicKey)
    (during : Trace Surroundings),
    u = ⟨.random _, entropy⟩ :: ⟨.now, now⟩ :: during ∧ key = .ofEntropy entropy.toList ∧
      Template.build now id services (some key.publicKey) validity = .ok t ∧
      Leads (a.sign t) during (.done (.ok signed))

/-- What is issued is made of what is signed. -/
theorem exists_signsIn_of_issue
    (h : Leads (a.issue id services validity) u (.done (.ok issued))) :
    ∃ key signed, a.SignsIn id services validity u key signed ∧
      issued = ⟨key.pem, withNewline signed.pem ++ a.certificatePem⟩ := by
  obtain _ | @⟨_, _, entropy, _, _, h⟩ := h
  obtain _ | @⟨_, _, now, rest, _, h⟩ := h
  obtain ⟨e, -, -, hfailed⟩ | ⟨t, built, h⟩ := Leads.of_check h
  · cases hfailed
  obtain ⟨e, -, hfailed⟩ | ⟨signed, during, after, rfl, hsign, h⟩ := Leads.exists_of_try h
  · cases hfailed
  obtain ⟨rfl, hissued⟩ := Program.leads_done_iff.1 h
  rw [List.append_nil]
  exact ⟨_, signed, ⟨entropy, now, t, during, rfl, rfl, built, hsign⟩, Except.ok.inj hissued⟩

/-- With these answers a certificate is issued. -/
theorem SignsIn.leads_issue {key : KeyPair} {signed : SignedCertificate}
    (h : a.SignsIn id services validity u key signed) :
    Leads (a.issue id services validity) u
      (.done (.ok ⟨key.pem, withNewline signed.pem ++ a.certificatePem⟩)) := by
  obtain ⟨entropy, now, t, during, rfl, rfl, built, hsign⟩ := h
  have hrest := Leads.try (f := fun signed => pure (IssuedCertificate.mk
    (KeyPair.ofEntropy entropy.toList).pem (withNewline signed.pem ++ a.certificatePem))) hsign
    (.refl _)
  rw [List.append_nil] at hrest
  exact .ask <| .ask <| Program.leads_check built hrest

/-- Whether a certificate can be issued has nothing to do with the text of the authority's own: if a
template is built and signed for some answers, there is a run with these. -/
theorem exists_leads_issue {issuer : X509.DistinguishedName} {key : KeyPair} (now : Instant)
    (entropy : Vector UInt8 KeyPair.entropySize) (serial : Vector UInt8 serialSize)
    (h : (Template.build now id services (some (KeyPair.ofEntropy entropy.toList).publicKey)
        validity >>= fun t => signWith ⟨issuer, key, ""⟩ (serialOf serial.toList)
          t).toOption.any fun _ => true) (certificatePem : String) :
    ∃ u issued, Leads (issue ⟨issuer, key, certificatePem⟩ id services validity) u
      (.done (.ok issued)) := by
  obtain ⟨signed, hsigned, -⟩ := exists_ok_of_any h
  obtain ⟨t, built, hsigned⟩ := bind_eq_ok_iff.1 hsigned
  rw [← signWith_certificatePem _ certificatePem] at hsigned
  obtain ⟨u, hsign⟩ := exists_leads_sign hsigned
  exact ⟨_, _, SignsIn.leads_issue ⟨entropy, now, t, u, rfl, rfl, built, hsign⟩⟩

/-- An authority with the key of octets that are all zero can issue a certificate for a node. -/
theorem exists_leads_issue_blank (certificatePem : String) : ∃ u issued, Leads
    (issue ⟨.ofCommonName "demo-ca", .ofEntropy (Vector.replicate KeyPair.entropySize 0).toList,
      certificatePem⟩ ⟨"data-0", "10.0.0.7", "demo", "prod"⟩ [] (.ofDays 365)) u
        (.done (.ok issued)) :=
  exists_leads_issue ⟨0⟩ (.replicate _ 0) (.replicate _ 0) (by decide +kernel) certificatePem

/-- The text of what is signed is a block with its octets. -/
theorem SignsIn.pem_eq {key : KeyPair} {signed : SignedCertificate}
    (h : a.SignsIn id services validity u key signed) :
    signed.pem = (Pem.Block.mk "CERTIFICATE" signed.der).encode := by
  obtain ⟨entropy, now, t, during, -, -, -, hsign⟩ := h
  obtain ⟨serial, hsigned⟩ := (a.along_sign t).ends hsign signed rfl
  rw [signWith] at hsigned
  cases hkey : t.publicKey with
  | none =>
    rw [hkey] at hsigned
    cases hsigned
  | some key =>
    rw [hkey] at hsigned
    obtain ⟨names, -, hsigned⟩ := bind_eq_ok_iff.1 hsigned
    split at hsigned
    · cases hsigned
      rfl
    · cases hsigned

/-! ### The leaf first -/

/-- In a chain a certificate comes first: its text, with the last line ended, and after it the text of
the authority's own certificate, unchanged. And the summary of the chain is that of the first. -/
structure HasFirst (a : CertificateAuthority) {der : Bytes} (l : CertificateText der)
    (chain : String) : Prop where
  parts : chain = l.ended.text ++ a.certificatePem
  ended : l.ended.text.toList.getLast? = some '\n'
  summary : CertificateSummary.ofPem (Utf8.encode chain) = CertificateSummary.ofDer der

theorem hasFirst_withNewline (a : CertificateAuthority) {der : Bytes} (l : CertificateText der) :
    a.HasFirst l (withNewline l.text ++ a.certificatePem) where
  parts := by rw [withNewline_text]
  ended := by
    obtain ⟨cs, -, -, hended⟩ := l.exists_text_eq
    rw [hended, String.toList_ofList, List.getLast?_append, Pem.LineEnd.getLast?_chars]
    rfl
  summary := by
    rw [withNewline_text]
    exact CertificateSummary.ofPem_text l.ended rfl a.certificatePem

/-- Whatever is issued, the chain has the certificate first that was signed in this run, by an authority
that has the text of its own certificate from where it was loaded. It would be so with any other
layout of the first, and with any other text of the second. -/
theorem exists_hasFirst_of_issue
    (h : Leads (a.issue id services validity) u (.done (.ok issued))) :
    ∃ key signed, a.SignsIn id services validity u key signed ∧
      issued = ⟨key.pem, withNewline signed.pem ++ a.certificatePem⟩ ∧
      (∀ certificatePem keyPem, ofPem certificatePem keyPem = .ok a →
        a.certificatePem = certificatePem) ∧
      (∃ l : CertificateText signed.der, l.text = signed.pem ∧
        a.HasFirst l issued.certificateChainPem) ∧
      ∀ (l : CertificateText signed.der) (a' : CertificateAuthority),
        a'.HasFirst l (withNewline l.text ++ a'.certificatePem) := by
  obtain ⟨key, signed, hsigns, rfl⟩ := exists_signsIn_of_issue h
  have hpem := hsigns.pem_eq
  refine ⟨key, signed, hsigns, rfl, fun _ _ loaded => (ofPem_eq_ok_iff.1 loaded).1, ?_,
    fun l a' => a'.hasFirst_withNewline l⟩
  have hstandard := (Pem.Block.Layout.text_standard ⟨"CERTIFICATE", signed.der⟩).trans hpem.symm
  refine ⟨Pem.Block.Layout.standard _, hstandard, ?_⟩
  rw [← hstandard]
  exact a.hasFirst_withNewline (Pem.Block.Layout.standard _)

/-- An authority is loaded in the same way from any two texts with the same first block. -/
theorem ofPem_of_document?_eq {text text' keyPem : String} (loaded : ofPem text keyPem = .ok a)
    (hblock : Pem.document? text' = Pem.document? text) :
    ofPem text' keyPem = .ok { a with certificatePem := text' } := by
  obtain ⟨-, hkey, certificate, hread, hloads⟩ := ofPem_eq_ok_iff.1 loaded
  have hread' : certificateIn? text' = some certificate := by
    rw [certificateIn?, hblock]
    exact hread
  exact ofPem_eq_ok_iff.2 ⟨rfl, hkey, certificate, hread', hloads⟩

/-- An authority that was loaded from a text with a comment before its certificate and a second block
after it, of which the last line is not ended. -/
theorem exists_hasFirst_of_issue_commented :
    let id : NodeIdentity := ⟨"es-0", "10.0.0.7", "demo", "default"⟩
    let comment := "# The authority of the demo cluster\n"
    let more := "-----BEGIN CERTIFICATE-----\nAAAA\n-----END CERTIFICATE-----"
    ∃ (der : Bytes) (a : CertificateAuthority) (u : Trace Surroundings) (issued : IssuedCertificate)
      (leaf : SignedCertificate),
      let certificatePem := comment ++ (Pem.Block.mk "CERTIFICATE" der).encode ++ more
      ofPem certificatePem firstKey.pem = .ok a ∧
        Leads (a.issue id [] (.ofSeconds 86400)) u (.done (.ok issued)) ∧
        issued.certificateChainPem = withNewline leaf.pem ++ certificatePem ∧
        CertificateSummary.ofPem (Utf8.encode issued.certificateChainPem) =
          CertificateSummary.ofDer leaf.der := by
  intro id comment more
  let own := ownCertificate "demo-ca" firstKey (List.replicate 16 0x01) (.ofSeconds 0)
    (.ofSeconds 86400)
  have hkey : KeyPair.ofDocument? firstKey.document = some firstKey := by decide +kernel
  have hshort : (own.sign? firstKey.secret).any (·.length < UInt64.size) := by decide +kernel
  obtain ⟨der, hown, hlt⟩ := (Option.any_eq_true ..).1 hshort
  have positive : Der.IsPositive (List.replicate 16 0x01) :=
    ⟨0x01, List.replicate 15 0x01, rfl, by decide, by decide⟩
  have loaded := ofPem_ownCertificate hkey positive (by decide) (by decide) hown
    (of_decide_eq_true hlt)
  let certificatePem := comment ++ (Pem.Block.mk "CERTIFICATE" der).encode ++ more
  have hblock : Pem.document? certificatePem =
      Pem.document? (Pem.Block.mk "CERTIFICATE" der).encode := by
    have hne : "CERTIFICATE" ≠ "" := by decide
    have hdash : '-' ∉ "CERTIFICATE".toList := by decide
    have hcomment : '-' ∉ comment.toList := by decide
    rw [Pem.document?_append hne hdash hcomment, Pem.document?_encode hne hdash]
  have loaded := ofPem_of_document?_eq loaded hblock
  -- octets that are all zero give the key `1`
  have hsome : ((Template.build ⟨0⟩ id [] (some (KeyPair.ofEntropy (Vector.replicate
      KeyPair.entropySize 0).toList).publicKey) (.ofSeconds 86400)) >>= fun t =>
        signWith ⟨.ofCommonName "demo-ca", firstKey, ""⟩
          (serialOf (Vector.replicate serialSize 1).toList) t).toOption.any fun _ => true := by
    decide +kernel
  obtain ⟨u, issued, hissue⟩ := exists_leads_issue _ _ _ hsome certificatePem
  obtain ⟨_, leaf, -, rfl, -, ⟨_, -, hfirst⟩, -⟩ := exists_hasFirst_of_issue hissue
  exact ⟨der, _, u, _, leaf, loaded, hissue, rfl, hfirst.summary⟩

end CertificateAuthority

end NodePki
