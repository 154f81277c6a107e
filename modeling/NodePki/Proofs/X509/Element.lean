import NodePki.Der.Writer
import NodePki.Proofs.Bytes
import NodePki.X509.Element

/-!
# Reading written values

The lenient reader finds in written octets what was written. `Takes` says so of a reader that leaves
what follows alone, `Finds` of one that is given a whole content. Both speak of octets with a length
below 64 bits only, beyond which the reader refuses; in this way the bound is used where a length is
read (`takes_length`) and passes from a value to its parts by itself.
-/

namespace NodePki.X509

open Der (Tag tlv tlvOf lengthOctets)

variable {α β : Type}

/-- The reader takes the octets, whatever follows, and answers the value. -/
def Takes (r : Reader α) (bs : Bytes) (a : α) : Prop :=
  bs.length < UInt64.size → ∀ rest, r (bs ++ rest) = some (a, rest)

/-- The reader answers the value for a content of these octets. -/
def Finds (r : Reader α) (bs : Bytes) (a : α) : Prop :=
  bs.length < UInt64.size → Reader.within r bs = some a

section Rules

variable {r : Reader α} {f : α → Reader β} {a : α} {b : β} {x y : Bytes}

theorem bind_apply (r : Reader α) (f : α → Reader β) (bs : Bytes) :
    (r >>= f) bs = (r bs).bind fun p => f p.1 p.2 := rfl

theorem takes_pure (a : α) : Takes (pure a) [] a := fun _ _ => rfl

theorem Takes.bind (h : Takes r x a) (h' : Takes (f a) y b) : Takes (r >>= f) (x ++ y) b := by
  intro hlt rest
  rw [List.length_append] at hlt
  have hx := h (Nat.lt_of_add_right_lt hlt) (y ++ rest)
  have hy := h' (Nat.lt_of_add_left_lt hlt) rest
  rw [bind_apply, List.append_assoc, hx, Option.bind_some, hy]

theorem Takes.bind_nil (h : Takes r x a) (h' : Takes (f a) [] b) : Takes (r >>= f) x b := by
  simpa using h.bind h'

theorem Takes.finds (h : Takes r x a) : Finds r x a := by
  intro hlt
  have hx := h hlt []
  rw [List.append_nil] at hx
  rw [Reader.within, hx]
  rfl

/-- A reader that only looks at what follows. -/
theorem finds_bind_of_peek (h : x.length < UInt64.size → r x = some (a, x))
    (h' : Finds (f a) x b) : Finds (r >>= f) x b := by
  intro hlt
  rw [Reader.within, bind_apply, h hlt]
  exact h' hlt

theorem Finds.bind_pure (h : Finds r x a) (g : α → β) :
    Finds (r >>= fun a => pure (g a)) x (g a) := by
  intro hlt
  have hx := h hlt
  rw [Reader.within] at hx ⊢
  obtain ⟨⟨a', rest⟩, hr, rfl⟩ := Option.map_eq_some_iff.1 hx
  rw [bind_apply, hr]
  rfl

theorem Takes.finds_bind (h : Takes r x a) (h' : Finds (f a) y b) : Finds (r >>= f) (x ++ y) b := by
  intro hlt
  rw [List.length_append] at hlt
  have hx := h (Nat.lt_of_add_right_lt hlt) y
  have hy := h' (Nat.lt_of_add_left_lt hlt)
  rwa [Reader.within, bind_apply, hx, Option.bind_some]

end Rules

/-! ## Repetition -/

section Repetition

variable {r : Reader α} {f : β → Bytes} {g : β → α} {l : List β}

theorem many_flatMap (hend : r [] = none) (h : ∀ v ∈ l, Takes r (f v) (g v))
    (hlt : (l.flatMap f).length < UInt64.size) {n : Nat} (hn : (l.flatMap f).length ≤ n) :
    Reader.many r n (l.flatMap f) = (l.map g, []) := by
  induction l generalizing n with
  | nil =>
    cases n with
    | zero => rfl
    | succ n => rw [List.flatMap_nil, Reader.many, hend]; rfl
  | cons v l ih =>
    rw [List.forall_mem_cons] at h
    rw [List.flatMap_cons, List.length_append] at hlt hn
    have hv := h.1 (Nat.lt_of_add_right_lt hlt) (l.flatMap f)
    have hpos : f v ≠ [] := by
      intro hnil
      have := h.1 (by rw [hnil]; decide) []
      rw [hnil, List.nil_append, hend] at this
      cases this
    have hpos := List.length_pos_iff.2 hpos
    cases n with
    | zero => omega
    | succ n =>
      rw [List.flatMap_cons, Reader.many, hv]
      dsimp only
      rw [ih h.2 (by omega) (by omega)]
      rfl

/-- Values that a reader takes make up a content. -/
theorem all?_flatMap (hend : r [] = none) (h : ∀ v ∈ l, Takes r (f v) (g v))
    (hlt : (l.flatMap f).length < UInt64.size) :
    Reader.all? r (l.flatMap f) = some (l.map g) := by
  rw [Reader.all?, many_flatMap hend h hlt (Nat.le_refl _)]

theorem some?_of_takes {x : Bytes} {a : α} (hend : r [] = none) (h : Takes r x a)
    (hlt : x.length < UInt64.size) : Reader.some? r x = [a] := by
  have hmany := many_flatMap (f := fun _ : Unit => x) (g := fun _ => a) (l := [()]) hend
    (fun _ _ => h) (by simpa using hlt) (Nat.le_refl _)
  rw [List.flatMap_singleton] at hmany
  rw [Reader.some?, hmany]
  rfl

end Repetition

/-! ## The parts of a value -/

theorem takes_octet (b : UInt8) : Takes Reader.octet [b] b := fun _ _ => rfl

theorem takes_take (bs : Bytes) : Takes (Reader.take bs.length) bs bs := by
  intro _ rest
  rw [Reader.take, if_neg (by simp), List.take_left, List.drop_left]

namespace Element

theorem takes_openLength {n : Nat} (h : n < UInt64.size) :
    Takes openLength (lengthOctets n) (some n) := by
  rw [lengthOctets]
  split
  · next small =>
    have htoNat : (UInt8.ofNat n).toNat = n := by simp; omega
    have hlt : UInt8.ofNat n < 0x80 := UInt8.lt_iff_toNat_lt.2 (by rwa [htoNat])
    refine (takes_octet _).bind_nil ?_
    rw [if_pos hlt, htoNat]
    exact takes_pure _
  · next large =>
    have hwidth : Bytes.width n ≤ 8 := Bytes.width_le h
    have hpos : 0 < Bytes.width n := Nat.succ_pos _
    have htoNat : (UInt8.ofNat (0x80 + Bytes.width n)).toNat = 0x80 + Bytes.width n := by
      simp
      omega
    generalize UInt8.ofNat (0x80 + Bytes.width n) = b at htoNat
    have hlong : ¬ b < 0x80 := by
      rw [UInt8.lt_iff_toNat_lt, htoNat]
      exact Nat.not_lt_of_le (Nat.le_add_right _ _)
    have hcounted : b ≠ 0x80 := by
      rintro rfl
      have : 0x80 = 0x80 + Bytes.width n := htoNat
      omega
    have hknown : b ≠ 0xff := by
      rintro rfl
      have : 0xff = 0x80 + Bytes.width n := htoNat
      omega
    have hcount : (Bytes.ofNat n).length = b.toNat - 0x80 := by
      rw [Bytes.length_ofNat]
      omega
    refine (takes_octet b).bind ?_
    rw [if_neg hlong, if_neg hcounted, if_neg hknown, ← hcount]
    refine (takes_take _).bind_nil ?_
    rw [Bytes.toNat_ofNat, if_pos h]
    exact takes_pure _

theorem takes_length {n : Nat} (h : n < UInt64.size) : Takes length (lengthOctets n) n := by
  exact (takes_openLength h).bind_nil (takes_pure n)

/-- The value with an identifier octet and a content. -/
def ofOctet (b : UInt8) (content : Bytes) : Element :=
  ⟨b.toNat / 64, b.toNat / 32 % 2 = 1, b.toNat % 32, content⟩

/-- The value with a tag and a content. -/
def ofTag (t : Tag) (content : Bytes) : Element := ofOctet t.octet content

@[simp] theorem content_ofOctet (b : UInt8) (content : Bytes) :
    (ofOctet b content).content = content := rfl

@[simp] theorem content_ofTag (t : Tag) (content : Bytes) : (ofTag t content).content = content := rfl

theorem takes_identifier {b : UInt8} (h : b.toNat % 32 ≠ 31) :
    Takes identifier [b] (b.toNat / 64, decide (b.toNat / 32 % 2 = 1), b.toNat % 32) := by
  refine (takes_octet b).bind_nil ?_
  dsimp only
  rw [if_neg h]
  exact takes_pure _

theorem length_lt_of_tlvOf {b : UInt8} {content : Bytes}
    (h : (tlvOf b content).length < UInt64.size) : content.length < UInt64.size := by
  rw [tlvOf, List.length_append] at h
  exact Nat.lt_of_add_left_lt h

theorem takes_header {b : UInt8} (h : b.toNat % 32 ≠ 31) {n : Nat} (hn : n < UInt64.size) :
    Takes header (b :: lengthOctets n)
      (b.toNat / 64, decide (b.toNat / 32 % 2 = 1), b.toNat % 32, n) :=
  (takes_identifier h).bind ((takes_length hn).bind_nil (takes_pure _))

theorem takes_read {b : UInt8} (h : b.toNat % 32 ≠ 31) (content : Bytes) :
    Takes read (tlvOf b content) (ofOctet b content) := by
  intro hlt
  have hheader := takes_header h (length_lt_of_tlvOf hlt)
  exact hheader.bind ((takes_take content).bind_nil (takes_pure _)) hlt

theorem octet_mod_ne (t : Tag) : t.octet.toNat % 32 ≠ 31 := by
  cases t with
  | numbered cls constructed number =>
    revert number
    cases cls <;> cases constructed <;> decide
  | _ => decide

theorem takes_tlv (t : Tag) (content : Bytes) : Takes read (tlv t content) (ofTag t content) :=
  takes_read (octet_mod_ne t) content

/-- The header of a value is there if the value is. -/
theorem header_tlv {t : Tag} {content : Bytes} (h : (tlv t content).length < UInt64.size)
    (rest : Bytes) : header (tlv t content ++ rest) = some
      (((ofTag t content).cls, (ofTag t content).constructed, (ofTag t content).number,
        content.length), content ++ rest) := by
  have hlt : (t.octet :: lengthOctets content.length).length < UInt64.size := by
    rw [tlv, tlvOf, List.length_append] at h
    exact Nat.lt_of_add_right_lt h
  have hheader := takes_header (octet_mod_ne t) (length_lt_of_tlvOf h) hlt (content ++ rest)
  rwa [← List.append_assoc] at hheader

theorem takes_readOpen {b : UInt8} (h : b.toNat % 32 ≠ 31) (content : Bytes) :
    Takes readOpen (tlvOf b content) (ofOctet b content) := by
  intro hlt
  have hlength := length_lt_of_tlvOf hlt
  exact (takes_identifier h).bind ((takes_openLength hlength).bind
    ((takes_take content).bind_nil (takes_pure _))) hlt

/-! ## Values of a kind -/

theorem takes_expect {b : UInt8} {number : Nat} (hb : b.toNat % 32 = number) (h : number ≠ 31)
    (content : Bytes) : Takes (expect number) (tlvOf b content) (ofOctet b content) := by
  refine (takes_read (hb ▸ h) content).bind_nil ?_
  rw [if_pos (show (ofOctet b content).number = number from hb)]
  exact takes_pure _

theorem takes_container {r : Reader α} {b : UInt8} {number : Nat} {content : Bytes} {a : α}
    (hb : b.toNat % 32 = number) (h : number ≠ 31) (hr : Finds r content a) :
    Takes (container number r) (tlvOf b content) a := by
  intro hlt
  have hlength := length_lt_of_tlvOf hlt
  refine (takes_expect hb h content).bind_nil (fun _ rest => ?_) hlt
  rw [content_ofOctet, hr hlength]
  rfl

theorem takes_sequence {r : Reader α} {content : Bytes} {a : α} (h : Finds r content a) :
    Takes (sequence r) (tlv .sequence content) a :=
  takes_container (b := Tag.sequence.octet) rfl (by decide) h

theorem takes_objectIdentifier (content : Bytes) :
    Takes primitive (tlv .objectIdentifier content) content :=
  (takes_tlv .objectIdentifier content).bind_nil (takes_pure content)

theorem takes_octetString (content : Bytes) :
    Takes (expect octetStringNumber) (Der.octetString content) (ofTag .octetString content) :=
  takes_expect (b := Tag.octetString.octet) rfl (by decide) content

theorem takes_bitString (content : Bytes) :
    Takes bitString (Der.bitString 0 content) (0, content) := by
  have hends : endsInZeros 0 content := by
    rw [endsInZeros]
    split
    · rfl
    · simp [Nat.pow, Nat.mod_one]
  have hbits : (ofTag .bitString (0 :: content)).bits? = some (0, content) := if_pos hends
  refine (takes_expect (b := Tag.bitString.octet) rfl (by decide) _).bind_nil fun _ rest => ?_
  exact congrArg (Option.map (·, rest)) hbits

end Element

end NodePki.X509
