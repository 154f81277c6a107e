import NodePki.Crypto.Ecdsa
import NodePki.Proofs.Der.Takes
import NodePki.X509.Unsigned

/-!
# Sizes of written certificates

Bounds on the lengths of what a signed certificate is made of. None is sharp: they are here so that
readers which count octets in 64 bits can be used, and so each only says that a value is at most a
few times as long as its parts.
-/

namespace NodePki

open Der (tlv length_tlv_le length_sequence_le)

/-! ## Numbers and signatures -/

theorem Der.length_natural_le {n k : Nat} (h : n < 256 ^ (k + 1)) :
    (natural n).length ≤ 2 * k + 7 := by
  have hunsigned : ∀ bs : Bytes, (unsigned bs).length ≤ bs.length + 1 := by
    intro bs
    cases bs with
    | nil => exact Nat.le_add_left 0 1
    | cons b bs => rw [unsigned]; split <;> simp
  have hle := length_tlv_le .integer (unsigned (Bytes.ofNat n))
  have hwidth := Bytes.width_le h
  have := hunsigned (Bytes.ofNat n)
  rw [Bytes.length_ofNat] at this
  rw [natural]
  omega

namespace Ecdsa

/-- Both numbers of a signature are below the order of the curve. -/
theorem lt_of_withNonce? {c : Curve} {secret digest nonce r s : Nat}
    (h : withNonce? c secret digest nonce = some (r, s)) : r < c.order ∧ s < c.order := by
  have horder : 0 < c.order := by cases c <;> decide
  simp only [withNonce?] at h
  split at h
  · cases h
  · cases h
    exact ⟨Nat.mod_lt _ horder, Nat.mod_lt _ horder⟩

theorem lt_of_search? {c : Curve} {secret digest tries r s : Nat} {d : Drawer}
    (h : search? c secret digest tries d = some (r, s)) : r < c.order ∧ s < c.order := by
  induction tries generalizing d with
  | zero => cases h
  | succ tries ih =>
    rw [search?] at h
    split at h
    · split at h
      · next signature hnonce =>
        cases h
        exact lt_of_withNonce? hnonce
      · exact ih h
    · exact ih h

theorem length_le_of_sign? {c : Curve} {secret : Nat} {message signature : Bytes}
    (h : sign? c secret message = some signature) : signature.length ≤ 407 := by
  obtain ⟨⟨r, s⟩, hsearch, h⟩ := Option.bind_eq_some_iff.1 h
  obtain ⟨hr, hs⟩ := lt_of_search? hsearch
  have horder : c.order < 256 ^ (47 + 1) := by cases c <;> decide
  have hr := Der.length_natural_le (Nat.lt_trans hr horder)
  have hs := Der.length_natural_le (Nat.lt_trans hs horder)
  have hle := length_sequence_le [Der.natural r, Der.natural s]
  simp only [List.flatten_cons, List.flatten_nil, List.length_append, List.length_nil] at hle
  rw [← Option.some.inj h]
  omega

end Ecdsa

namespace X509

/-! ## Parts of a certificate -/

theorem length_decimalOctets (w n : Nat) : (decimalOctets w n).length = w := by
  induction w with
  | zero => rfl
  | succ w ih => rw [decimalOctets, List.length_cons, ih]

theorem length_encodeTime_le (t : Instant) : (encodeTime t).length ≤ 33 := by
  have hshort := length_tlv_le .utcTime
  have hlong := length_tlv_le .generalizedTime
  simp only [encodeTime]
  split
  · refine Nat.le_trans (length_tlv_le _ _) ?_
    simp [length_decimalOctets]
  · refine Nat.le_trans (length_tlv_le _ _) ?_
    simp [length_decimalOctets]

theorem DistinguishedName.length_encode_ofCommonName_le (text : String) :
    (ofCommonName text).encode.length ≤ 16 * (Utf8.encode text).length + 123 := by
  have htext := length_tlv_le .utf8String (Utf8.encode text)
  have hoid : (Der.objectIdentifier Oid.commonName.content).length = 5 := by decide
  have hattribute := length_sequence_le [Der.objectIdentifier Oid.commonName.content,
    tlv .utf8String (Utf8.encode text)]
  have hgroup := length_tlv_le .set [Der.sequence [Der.objectIdentifier Oid.commonName.content,
    tlv .utf8String (Utf8.encode text)]].flatten
  have hname := length_sequence_le [Der.set [Der.sequence [
    Der.objectIdentifier Oid.commonName.content, tlv .utf8String (Utf8.encode text)]]]
  have hencode : (ofCommonName text).encode = Der.sequence [Der.set [Der.sequence [
    Der.objectIdentifier Oid.commonName.content, tlv .utf8String (Utf8.encode text)]]] := rfl
  simp only [Der.set, List.flatten_cons, List.flatten_nil, List.append_nil, List.length_append]
    at hattribute hgroup hname hencode
  rw [hencode]
  omega

theorem Extension.length_encode_le (e : Extension) :
    e.encode.length ≤ 4 * (e.oid.content.length + e.value.length) + 21 := by
  have hoid := length_tlv_le .objectIdentifier e.oid.content
  have hvalue := length_tlv_le .octetString e.value
  have htrue : Der.booleanTrue.length = 3 := by decide
  rw [encode]
  refine Nat.le_trans (length_sequence_le _) ?_
  cases e.critical
  all_goals
    simp only [Bool.false_eq_true, if_true, if_false, List.append_nil, List.cons_append,
      List.nil_append, List.flatten_cons, List.flatten_nil, List.length_append,
      Der.objectIdentifier, Der.octetString]
    omega

theorem Extension.length_encodeList_le (es : List Extension) :
    (encodeList es).length ≤ 4 * (es.map encode).flatten.length + 9 := by
  have hextensions := length_sequence_le (es.map encode)
  have hwrapper := length_tlv_le (.contextConstructed 3) (Der.sequence (es.map encode))
  rw [encodeList]
  split
  · exact Nat.zero_le _
  · omega

theorem length_info_le (k : PublicKey) :
    k.info.length ≤ 4 * (k.algorithm.length + k.octets.length) + 23 := by
  have hkind := length_sequence_le [k.algorithm]
  have hbits := length_tlv_le .bitString (0 :: k.octets)
  rw [List.length_cons] at hbits
  have hle := length_sequence_le [Der.sequence [k.algorithm], Der.bitString 0 k.octets]
  simp only [List.flatten_cons, List.flatten_nil, List.length_append, List.length_nil,
    Der.bitString] at hkind hle
  rw [PublicKey.info, Der.bitString]
  omega

/-- The written part that is signed, by the sizes of its parts. -/
theorem UnsignedCertificate.length_encode_le (u : UnsignedCertificate)
    (signatureAlgorithm : Bytes) : (u.encode signatureAlgorithm).length ≤
      2 * (2 * u.serial.length + signatureAlgorithm.length + u.issuer.encode.length +
        u.subject.encode.length + u.publicKey.info.length +
        4 * (u.extensions.map Extension.encode).flatten.length) + 322 := by
  have hversion : (tlv (.contextConstructed 0) (Der.natural 2)).length = 5 := by decide
  have hserial := length_tlv_le .integer u.serial
  have hbefore := length_encodeTime_le u.notBefore
  have hafter := length_encodeTime_le u.notAfter
  have hvalidity := length_sequence_le [encodeTime u.notBefore, encodeTime u.notAfter]
  have hextensions := Extension.length_encodeList_le u.extensions
  rw [encode]
  refine Nat.le_trans (length_sequence_le _) ?_
  simp only [List.flatten_cons, List.flatten_nil, List.length_append, List.length_nil]
    at hvalidity ⊢
  omega

/-- The size of a signed certificate. -/
theorem UnsignedCertificate.exists_length_le_of_sign? {u : UnsignedCertificate} {key : SecretKey}
    {der : Bytes} (h : u.sign? key = some der) :
    ∃ signature, key.sign? (u.encode key.signatureAlgorithm) = some signature ∧
      der.length ≤ 2 * ((u.encode key.signatureAlgorithm).length + key.signatureAlgorithm.length +
        2 * signature.length) + 13 := by
  obtain ⟨signature, hsignature, hder⟩ := Option.bind_eq_some_iff.1 h
  refine ⟨signature, hsignature, ?_⟩
  have hbits := length_tlv_le .bitString (0 :: signature)
  rw [List.length_cons] at hbits
  have hle := length_sequence_le [u.encode key.signatureAlgorithm, key.signatureAlgorithm,
    Der.bitString 0 signature]
  simp only [List.flatten_cons, List.flatten_nil, List.length_append, List.length_nil,
    Der.bitString] at hle
  rw [← Option.some.inj hder, Der.bitString]
  omega

end X509

end NodePki
