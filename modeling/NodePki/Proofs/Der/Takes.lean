import NodePki.Proofs.Der.Reader

/-!
# Reading written octets strictly

What the strict reader does with octets that are a form it takes (`Reads.takes`), whatever follows.
A reader that looks at what follows is judged on a whole content (`Finds`), and the judgement of a
content begins with what is taken first (`Takes.finds_bind`).
-/

namespace NodePki.Der

variable {α β : Type} {r : Reader α} {f : α → Reader β} {a : α} {b : β} {x y : Bytes}

/-- The reader takes the octets, whatever follows, and answers the value. -/
def Takes (r : Reader α) (bs : Bytes) (a : α) : Prop :=
  ∀ c c' : Cursor, c.Passes bs c' → r c = .ok (a, c')

/-- The reader answers the value for these octets, and leaves nothing. -/
def Finds (r : Reader α) (bs : Bytes) (a : α) : Prop :=
  ∀ c c' : Cursor, c.Passes bs c' → c'.rest = [] → r c = .ok (a, c')

/-- A form that a reader takes. -/
theorem Reads.takes {Form : α → Bytes → Prop} (h : Reads r Form)
    (hx : x.length ≤ maxLength → Form a x) : Takes r x a := by
  intro c c' hpass
  have hposition : c.position ≤ maxLength := by
    have := hpass.position ▸ hpass.fits
    omega
  exact (h c hposition a c').2 ⟨x, hx hpass.length_le, hpass⟩

theorem Takes.finds (h : Takes r x a) : Finds r x a := fun c c' hpass _ => h c c' hpass

theorem finds_pure (a : α) : Finds (pure a) [] a := by
  intro c c' hpass _
  have hfits : c.position ≤ maxLength := by
    have := hpass.position ▸ hpass.fits
    omega
  rw [(Cursor.passes_nil hfits).1 hpass]
  rfl

theorem bind_apply {c c' : Cursor} (h : r c = .ok (a, c')) : (r >>= f) c = f a c' := by
  show (r c >>= fun p => f p.1 p.2) = _
  rw [h]
  rfl

/-- What is taken first, and what is done with the rest. -/
theorem Takes.finds_bind (h : Takes r x a) (h' : Finds (f a) y b) : Finds (r >>= f) (x ++ y) b := by
  intro c c' hpass hend
  obtain ⟨d, hcd, hdc'⟩ := Cursor.passes_append.1 hpass
  rw [bind_apply (h c d hcd)]
  exact h' d c' hdc' hend

theorem Takes.finds_bind_nil (h : Takes r x a) (h' : Finds (f a) [] b) :
    Finds (r >>= f) x b := by
  simpa using h.finds_bind h'

/-- A reader that only looks at what follows. -/
theorem finds_bind_of_peek (h : ∀ c : Cursor, c.rest = x → r c = .ok (a, c))
    (h' : Finds (f a) x b) : Finds (r >>= f) x b := by
  intro c c' hpass hend
  have hrest : c.rest = x := by rw [hpass.rest, hend, List.append_nil]
  rw [bind_apply (h c hrest)]
  exact h' c c' hpass hend

/-- A whole message. -/
theorem Finds.decode_eq_ok (h : Finds r x a) (hfits : x.length ≤ maxLength) :
    decode r x = .ok a := by
  have hread := h ⟨0, x⟩ ⟨x.length, []⟩
    ⟨(List.append_nil x).symm, (Nat.zero_add _).symm, hfits⟩ rfl
  rw [decode, if_neg (Nat.not_lt_of_le hfits), hread]
  rfl

theorem isFinished_of_rest_eq_nil {c : Cursor} (h : c.rest = []) :
    Reader.isFinished c = .ok (true, c) := by
  rw [Reader.isFinished, h]
  rfl

/-- A value is at most about twice as long as its content. -/
theorem length_tlv_le (t : Tag) (content : Bytes) :
    (tlv t content).length ≤ 2 * content.length + 3 := by
  have hlength : (lengthOctets content.length).length ≤ content.length + 2 := by
    rw [lengthOctets]
    split
    · exact Nat.le_add_left 1 _
    · have hlog : content.length.log2 ≤ content.length := Nat.log2_le_self _
      rw [List.length_cons, Bytes.length_ofNat, Bytes.width]
      omega
  rw [length_tlv]
  omega

theorem length_sequence_le (parts : List Bytes) :
    (sequence parts).length ≤ 2 * parts.flatten.length + 3 :=
  length_tlv_le .sequence parts.flatten

end NodePki.Der
