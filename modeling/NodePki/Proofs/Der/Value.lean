import NodePki.Der.Writer
import NodePki.Proofs.Bytes

/-!
# The grammar of values

Which octets a value may be written with, said without the reader and the writer: a tag, a definite
length in its shortest form (`IsLength`) and as many octets of content (`IsValue`), and values one
after another (`AreValues`). None of it leaves a choice: within the limit on lengths the octets are
those that the writer writes (`isLength_iff`, `isValue_iff`, `areValues_iff`).
-/

namespace NodePki.Der

/-- The octets are a definite length in its shortest form: the number itself below `80`, or the
count of the octets of the number, of which the first is not zero. -/
inductive IsLength : Nat → Bytes → Prop
  | short {n : Nat} (small : n < 0x80) : IsLength n [UInt8.ofNat n]
  | long {first : UInt8} {rest : Bytes} (significant : first ≠ 0)
      (large : 0x80 ≤ Bytes.toNat (first :: rest)) (few : rest.length < 126) :
      IsLength (Bytes.toNat (first :: rest))
        (UInt8.ofNat (0x80 + (rest.length + 1)) :: first :: rest)

/-- The octets are a value: its tag, its length and its content. -/
inductive IsValue (t : Tag) (content : Bytes) : Bytes → Prop
  | mk {length : Bytes} (counts : IsLength content.length length) :
      IsValue t content (t.octet :: length ++ content)

/-- The octets are values, given by their tags and contents, one after another. -/
inductive AreValues : List (Tag × Bytes) → Bytes → Prop
  | nil : AreValues [] []
  | cons {t : Tag} {content value rest : Bytes} {vs : List (Tag × Bytes)}
      (first : IsValue t content value) (others : AreValues vs rest) :
      AreValues ((t, content) :: vs) (value ++ rest)

/-! ## Written values -/

theorem length_tlv (t : Tag) (content : Bytes) :
    (tlv t content).length = (lengthOctets content.length).length + content.length + 1 := by
  simp [tlv, tlvOf]

theorem length_lt_length_tlv (t : Tag) (content : Bytes) :
    content.length < (tlv t content).length := by
  rw [length_tlv]
  omega

/-- Values one after another, as the writer writes them. -/
def tlvs (vs : List (Tag × Bytes)) : Bytes := vs.flatMap fun v => tlv v.1 v.2

@[simp] theorem tlvs_nil : tlvs [] = [] := rfl

@[simp] theorem tlvs_cons (v : Tag × Bytes) (vs : List (Tag × Bytes)) :
    tlvs (v :: vs) = tlv v.1 v.2 ++ tlvs vs := List.flatMap_cons

@[simp] theorem tlvs_append (vs ws : List (Tag × Bytes)) : tlvs (vs ++ ws) = tlvs vs ++ tlvs ws :=
  List.flatMap_append

theorem length_lt_of_mem {v : Tag × Bytes} {vs : List (Tag × Bytes)} (h : v ∈ vs) :
    v.2.length < (tlvs vs).length := by
  obtain ⟨before, after, rfl⟩ := List.append_of_mem h
  have hlt := length_lt_length_tlv v.1 v.2
  rw [tlvs_append, tlvs_cons, List.length_append, List.length_append]
  omega

/-! ## One form -/

/-- A length has one shortest form. -/
theorem isLength_iff {n : Nat} {bs : Bytes} (h : n ≤ maxLength) :
    IsLength n bs ↔ bs = lengthOctets n := by
  constructor
  · rintro (small | ⟨significant, large, few⟩)
    · rw [lengthOctets, if_pos small]
    · rw [lengthOctets, if_neg (by omega), Bytes.ofNat_toNat_cons significant,
        Bytes.width_toNat_cons significant]
  · rintro rfl
    by_cases small : n < 0x80
    · rw [lengthOctets, if_pos small]
      exact .short small
    · obtain ⟨first, rest, hn, significant⟩ := Bytes.exists_ofNat_eq_cons (n := n) (by omega)
      have hwidth : Bytes.width n = rest.length + 1 := by
        rw [← Bytes.length_ofNat, hn, List.length_cons]
      have hfew : Bytes.width n ≤ 4 := Bytes.width_le (Nat.lt_of_le_of_lt h (by decide))
      have hback : Bytes.toNat (first :: rest) = n := by rw [← hn, Bytes.toNat_ofNat]
      rw [lengthOctets, if_neg small, hn, hwidth]
      exact hback ▸ .long significant (hback ▸ Nat.le_of_not_lt small) (by omega)

theorem IsValue.length_lt {t : Tag} {content bs : Bytes} (h : IsValue t content bs) :
    content.length < bs.length := by
  cases h
  simp only [List.length_append, List.length_cons]
  omega

theorem areValues_nil_iff {vs : List (Tag × Bytes)} : AreValues vs [] ↔ vs = [] := by
  constructor
  · generalize hbs : ([] : Bytes) = bs
    rintro (_ | ⟨first, -⟩)
    · rfl
    · rw [(List.append_eq_nil_iff.1 hbs.symm).1] at first
      exact absurd first.length_lt (Nat.not_lt_zero _)
  · rintro rfl
    exact .nil

/-- A value has one form. -/
theorem isValue_iff {t : Tag} {content bs : Bytes} (h : bs.length ≤ maxLength) :
    IsValue t content bs ↔ bs = tlv t content := by
  constructor
  · intro hv
    have hlt := hv.length_lt
    obtain ⟨counts⟩ := hv
    rw [(isLength_iff (by omega)).1 counts]
    rfl
  · rintro rfl
    have hlt := length_lt_length_tlv t content
    exact ⟨(isLength_iff (by omega)).2 rfl⟩

/-- Values one after another have one form. -/
theorem areValues_iff {vs : List (Tag × Bytes)} {bs : Bytes} (h : bs.length ≤ maxLength) :
    AreValues vs bs ↔ bs = tlvs vs := by
  induction vs generalizing bs with
  | nil =>
    refine ⟨fun hv => by cases hv; rfl, ?_⟩
    rintro rfl
    exact .nil
  | cons v vs ih =>
    constructor
    · rintro (_ | ⟨first, others⟩)
      rw [List.length_append] at h
      rw [(isValue_iff (by omega)).1 first, (ih (by omega)).1 others, tlvs_cons]
    · rintro rfl
      rw [tlvs_cons] at h ⊢
      rw [List.length_append] at h
      exact .cons ((isValue_iff (by omega)).2 rfl) ((ih (by omega)).2 rfl)

end NodePki.Der
