import NodePki.Crypto.PrivateKey
import NodePki.Proofs.Der.Takes
import NodePki.Proofs.Encoding.Pem

/-!
# New keys read back

The document of a secret number on a curve is read back to that number. A new key is on the smaller
of the two curves, and its number is in range whatever the random octets were, so every new key is
read back from its text (`KeyPair.ofDocument?_ofEntropy`, `KeyPair.document?_pem`).
-/

namespace NodePki.KeyPair

open Der (Tag tlv maxLength)

/-! ## Reading values -/

/-- A value with the expected tag is taken. -/
theorem takes_expect (t : Tag) (content : Bytes) :
    Der.Takes (expect t) (tlv t content) content := by
  have hreads : Der.Reads (expect t)
      (fun a bs => ∃ content, Der.IsValue t content bs ∧ a = content) := by
    refine Der.Reader.reads_valueOf fun n => (Der.Reader.reads_take n).congr fun a bs _ => ?_
    constructor
    · rintro ⟨rfl, rfl⟩
      exact ⟨rfl, rfl⟩
    · rintro ⟨rfl, rfl⟩
      exact ⟨rfl, rfl⟩
  exact hreads.takes fun hfits => ⟨content, (Der.isValue_iff hfits).2 rfl, rfl⟩

/-- A value with another tag is left. -/
theorem expectOptional_eq_none {t : Tag} {c : Der.Cursor} (h : c.rest.head? ≠ some t.octet) :
    expectOptional t c = .ok (none, c) := by
  have hnext : nextIs t c = .ok (false, c) := by
    rw [nextIs, decide_eq_false h]
  rw [expectOptional, Der.bind_apply hnext]
  rfl

theorem readWhole_eq_some {α : Type} {r : Der.Reader α} {bs : Bytes} {a : α}
    (h : Der.Finds r bs a) (hfits : bs.length ≤ maxLength) : readWhole r bs = some a := by
  rw [readWhole, h.decode_eq_ok hfits]
  rfl

/-! ## The document of a key on a curve -/

section Curve

variable (c : Curve) (n : Nat)

/-- The public key in a document. -/
def statedKey : Bytes := Der.bitString 0 (c.publicKey n)

/-- The key in a document. -/
def curveKey : Bytes :=
  Der.sequence [
    Der.natural 1,
    Der.octetString (Bytes.ofWidth c.size n),
    tlv (.contextConstructed 1) (statedKey c n)]

theorem finds_readCurveKey (hfits : (curveKey c n).length ≤ maxLength) :
    Der.Finds readCurveKey (curveKey c n)
      ([1], Bytes.ofWidth c.size n, none, statedKey c n) := by
  have hkey : curveKey c n = tlv .sequence (tlv .integer [1] ++
      (tlv .octetString (Bytes.ofWidth c.size n) ++
        tlv (.contextConstructed 1) (statedKey c n))) := by
    simp [curveKey, Der.sequence, Der.octetString]
    rfl
  generalize hcontent : tlv .integer [1] ++ (tlv .octetString (Bytes.ofWidth c.size n) ++
    tlv (.contextConstructed 1) (statedKey c n)) = content at hkey
  have hbody : Der.Finds readCurveKey.body content
      ([1], Bytes.ofWidth c.size n, none, statedKey c n) := by
    rw [← hcontent]
    refine (takes_expect .integer [1]).finds_bind ?_
    refine (takes_expect .octetString _).finds_bind ?_
    refine Der.finds_bind_of_peek (fun c hc => expectOptional_eq_none ?_) ?_
    · rw [hc]
      show some (Tag.contextConstructed 1).octet ≠ some (Tag.contextConstructed 0).octet
      decide
    · exact (takes_expect (.contextConstructed 1) _).finds_bind_nil (Der.finds_pure _)
  rw [hkey] at hfits
  have hwhole := readWhole_eq_some hbody
    (Nat.le_of_lt (Nat.lt_of_lt_of_le (Der.length_lt_length_tlv _ _) hfits))
  rw [hkey, readCurveKey]
  refine (takes_expect .sequence content).finds_bind_nil ?_
  rw [hwhole]
  exact Der.finds_pure _

/-- What the document of a secret number holds. -/
def curveParts : Document := ⟨[0], (SecretKey.ecdsa c n).keyAlgorithm, curveKey c n, none⟩

theorem finds_document (hfits : (curveDocument c n).length ≤ maxLength) :
    Der.Finds Document.read (curveDocument c n) (curveParts c n) := by
  have hdocument : curveDocument c n = tlv .sequence (tlv .integer [0] ++
      (tlv .sequence (SecretKey.ecdsa c n).keyAlgorithm ++
        (tlv .octetString (curveKey c n) ++ []))) := by
    simp [curveDocument, Der.sequence, Der.octetString, curveKey, statedKey]
    rfl
  generalize hcontent : tlv .integer [0] ++ (tlv .sequence (SecretKey.ecdsa c n).keyAlgorithm ++
    (tlv .octetString (curveKey c n) ++ [])) = content at hdocument
  have hbody : Der.Finds Document.read.body content (curveParts c n) := by
    rw [← hcontent]
    refine (takes_expect .integer [0]).finds_bind ?_
    refine (takes_expect .sequence _).finds_bind ?_
    refine (takes_expect .octetString _).finds_bind ?_
    refine Der.finds_bind_of_peek (fun c hc => expectOptional_eq_none ?_) ?_
    · rw [hc]
      decide
    · exact Der.finds_bind_of_peek (fun c hc => Der.isFinished_of_rest_eq_nil hc)
        (Der.finds_pure _)
  rw [hdocument] at hfits
  have hwhole := readWhole_eq_some hbody
    (Nat.le_of_lt (Nat.lt_of_lt_of_le (Der.length_lt_length_tlv _ _) hfits))
  rw [hdocument, Document.read]
  refine (takes_expect .sequence content).finds_bind_nil ?_
  rw [hwhole]
  exact Der.finds_pure _

theorem length_publicKey_le : (c.publicKey n).length ≤ 97 := by
  cases c <;> simp [Curve.publicKey, Curve.pointOctets, Curve.size]

theorem length_keyAlgorithm_le : (SecretKey.ecdsa c n).keyAlgorithm.length ≤ 19 := by
  cases c with
  | p256 => exact Nat.le_refl 19
  | p384 => exact Nat.le_add_right 16 3

theorem length_statedKey_le : (statedKey c n).length ≤ 199 := by
  have hpublic := length_publicKey_le c n
  have hle := Der.length_tlv_le .bitString (0 :: c.publicKey n)
  rw [List.length_cons] at hle
  rw [statedKey, Der.bitString]
  omega

theorem length_curveKey_le : (curveKey c n).length ≤ 1011 := by
  have hsecret : (Bytes.ofWidth c.size n).length ≤ 48 := by
    cases c <;> simp [Curve.size]
  have hone : (Der.natural 1).length = 3 := by decide
  have hoctets := Der.length_tlv_le .octetString (Bytes.ofWidth c.size n)
  have hstated := Der.length_tlv_le (.contextConstructed 1) (statedKey c n)
  have hle := Der.length_sequence_le [Der.natural 1, Der.octetString (Bytes.ofWidth c.size n),
    tlv (.contextConstructed 1) (statedKey c n)]
  have := length_statedKey_le c n
  simp only [List.flatten_cons, List.flatten_nil, List.length_append, List.length_nil,
    Der.octetString] at hle
  rw [curveKey, Der.octetString]
  omega

/-- No document of a key on a curve is too long. -/
theorem length_curveDocument_le : (curveDocument c n).length ≤ maxLength := by
  have hkind := length_keyAlgorithm_le c n
  have hzero : (Der.natural 0).length = 3 := by decide
  have halgorithm := Der.length_sequence_le [(SecretKey.ecdsa c n).keyAlgorithm]
  have hoctets := Der.length_tlv_le .octetString (curveKey c n)
  have hle := Der.length_sequence_le [Der.natural 0,
    Der.sequence [(SecretKey.ecdsa c n).keyAlgorithm], Der.octetString (curveKey c n)]
  have := length_curveKey_le c n
  simp only [List.flatten_cons, List.flatten_nil, List.length_append, List.length_nil,
    Der.octetString]
    at halgorithm hle
  have hdocument : curveDocument c n = Der.sequence [Der.natural 0,
    Der.sequence [(SecretKey.ecdsa c n).keyAlgorithm], tlv .octetString (curveKey c n)] := rfl
  rw [hdocument, maxLength]
  omega

/-! ## The key in the document -/

/-- A key on a curve is not taken for one of the other kind. -/
theorem ed25519Of?_curveParts : ed25519Of? (curveParts c n) = none := by
  have hkind : ∀ seed, (curveParts c n).algorithm ≠ (SecretKey.ed25519 seed).keyAlgorithm := by
    intro seed
    show (SecretKey.ecdsa c 0).keyAlgorithm ≠ (SecretKey.ed25519 []).keyAlgorithm
    cases c <;> decide
  rw [ed25519Of?]
  cases readWhole (expect .octetString) (curveParts c n).key with
  | none => rfl
  | some seed => simp [hkind seed]

variable {c n}

/-- The number in a document is read back if it is in range. -/
theorem ecdsaOf?_curveParts (hpos : 1 ≤ n) (hlt : n < c.order) :
    ecdsaOf? c (curveParts c n) = some (.ecdsa c n) := by
  have hfits : (curveKey c n).length ≤ maxLength :=
    Nat.le_trans (length_curveKey_le c n) (by decide)
  have hstated : (statedKey c n).length ≤ maxLength :=
    Nat.le_trans (length_statedKey_le c n) (by decide)
  have hkey : readWhole readCurveKey (curveKey c n) =
      some ([1], Bytes.ofWidth c.size n, none, statedKey c n) :=
    readWhole_eq_some (finds_readCurveKey c n hfits) hfits
  have hbits : readWhole (expect .bitString) (statedKey c n) = some (0 :: c.publicKey n) :=
    readWhole_eq_some (takes_expect .bitString _).finds hstated
  have hnumber : Bytes.toNat (Bytes.ofWidth c.size n) = n := by
    rw [Bytes.toNat_ofWidth, Nat.mod_eq_of_lt]
    refine Nat.lt_trans hlt ?_
    cases c <;> decide
  simp [ecdsaOf?, hkey, hbits, wholeBits?, hnumber, curveParts, hpos, hlt]

/-- The key in a document on the smaller curve is read back if it is in range. -/
theorem ofDocument?_curveDocument (hpos : 1 ≤ n) (hlt : n < Curve.p256.order) :
    ofDocument? (curveDocument .p256 n) =
      some ⟨.ecdsa .p256 n, curveDocument .p256 n⟩ := by
  have hfits := length_curveDocument_le .p256 n
  have hread := readWhole_eq_some (finds_document .p256 n hfits) hfits
  simp [ofDocument?, hread, ed25519Of?_curveParts, ecdsaOf?_curveParts hpos hlt]

end Curve

/-! ## New keys -/

/-- The secret number of a new key is in range. -/
theorem secretOfEntropy_bounds (c : Curve) (entropy : Bytes) :
    1 ≤ secretOfEntropy c entropy ∧ secretOfEntropy c entropy < c.order := by
  have horder : 1 < c.order := by cases c <;> decide
  have hlt := Nat.mod_lt (Bytes.toNat entropy) (Nat.sub_pos_of_lt horder)
  rw [secretOfEntropy]
  omega

/-- A new key is read back from its document. -/
theorem ofDocument?_ofEntropy (entropy : Bytes) :
    ofDocument? (ofEntropy entropy).document = some (ofEntropy entropy) := by
  obtain ⟨hpos, hlt⟩ := secretOfEntropy_bounds .p256 entropy
  exact ofDocument?_curveDocument hpos hlt

/-- The document of a key is read back from its text. -/
theorem document?_pem (k : KeyPair) :
    Pem.document? k.pem = some ⟨"PRIVATE KEY", k.document⟩ :=
  Pem.document?_encode (show "PRIVATE KEY" ≠ "" by decide)
    (show '-' ∉ "PRIVATE KEY".toList by decide)

end NodePki.KeyPair
