import NodePki.Der.Oid

/-!
# Strict object identifiers

The contents that the strict reader takes for an object identifier, said without its check: a first
octet for two arcs, then whole arcs (`Oid.IsStrict`). An arc takes at most five octets, of which a
fifth holds four bits; what its octets mean is no matter, so that an arc may begin with zeros and
need not fit 32 bits. `isStrict_iff` says that the check finds just these.
-/

namespace NodePki.Oid

/-- The octets end an arc of which `place` octets came before: all but the last one have the top
bit, and a fifth octet is below `10`. -/
inductive EndsArc : (place : Nat) → Bytes → Prop
  | last {place : Nat} {b : UInt8} (low : b < 0x80) (fits : place < 4 ∨ place = 4 ∧ b < 0x10) :
      EndsArc place [b]
  | more {place : Nat} {b : UInt8} {bs : Bytes} (high : 0x80 ≤ b) (rest : EndsArc (place + 1) bs) :
      EndsArc place (b :: bs)

/-- The octets are one whole arc. -/
abbrev IsArc (bs : Bytes) : Prop := EndsArc 0 bs

/-- The content is that of an identifier as the strict reader takes it: 3 to 39 octets, the first of
which stands for two arcs up to 2 and 39, and the others for whole arcs. -/
structure IsStrict (oid : Oid) : Prop where
  least : 3 ≤ oid.content.length
  greatest : oid.content.length ≤ 39
  arcs : ∃ (first : UInt8) (arcs : List Bytes),
    oid.content = first :: arcs.flatten ∧ first ≤ 119 ∧ ∀ a ∈ arcs, IsArc a

theorem EndsArc.place_le {place : Nat} {bs : Bytes} (h : EndsArc place bs) : place ≤ 4 := by
  induction h with
  | last _ fits => omega
  | more _ _ ih => omega

theorem high_bits_eq_zero_iff (b : UInt8) : b &&& 0xf0 = 0 ↔ b < 0x10 := by
  have all : ∀ n : Fin 256, UInt8.ofNat n.val &&& 0xf0 = 0 ↔ UInt8.ofNat n.val < 0x10 := by
    decide +kernel
  simpa using all ⟨b.toNat, b.toNat_lt⟩

/-- An octet below `80` ends its arc, where a fifth one is to be below `10`. -/
theorem acceptsArcs_cons_low {place : Nat} {b : UInt8} (h : place ≤ 4) (low : b < 0x80)
    (bs : Bytes) : acceptsArcs place (b :: bs) ↔
      (place < 4 ∨ place = 4 ∧ b < 0x10) ∧ acceptsArcs 0 bs := by
  rw [acceptsArcs, if_pos low, ← high_bits_eq_zero_iff]
  by_cases hfour : 4 ≤ place <;> by_cases hbits : b &&& 0xf0 = 0 <;> simp [hfour, hbits] <;> omega

/-- Any other octet leaves its arc open, and is no fifth one. -/
theorem acceptsArcs_cons_high {place : Nat} {b : UInt8} (high : ¬ b < 0x80) (bs : Bytes) :
    acceptsArcs place (b :: bs) ↔ place < 4 ∧ acceptsArcs (place + 1) bs := by
  have hbits : b &&& 0xf0 ≠ 0 := fun h =>
    high (UInt8.lt_trans ((high_bits_eq_zero_iff b).1 h) (by decide))
  rw [acceptsArcs, if_neg high]
  by_cases hfour : 4 ≤ place
  · simp [hfour, hbits, Nat.not_lt.2 hfour]
  · simp [hfour, Nat.lt_of_not_le hfour]

/-- Within an arc the check asks for its end, and for whole arcs after it. -/
theorem acceptsArcs_iff {place : Nat} (h : place ≤ 4) (bs : Bytes) :
    acceptsArcs place bs ↔ place = 0 ∧ bs = [] ∨
      ∃ (x : Bytes) (arcs : List Bytes),
        bs = x ++ arcs.flatten ∧ EndsArc place x ∧ ∀ a ∈ arcs, IsArc a := by
  induction bs generalizing place with
  | nil =>
    simp only [acceptsArcs, beq_iff_eq, and_true]
    refine ⟨.inl, ?_⟩
    rintro (rfl | ⟨x, arcs, hx, hend, -⟩)
    · rfl
    · cases hend <;> simp at hx
  | cons b bs ih =>
    by_cases low : b < 0x80
    · rw [acceptsArcs_cons_low h low, ih (Nat.zero_le 4)]
      constructor
      · rintro ⟨fits, ⟨-, rfl⟩ | ⟨x, arcs, rfl, hx, harcs⟩⟩
        · exact .inr ⟨[b], [], rfl, .last low fits, by simp⟩
        · exact .inr ⟨[b], x :: arcs, rfl, .last low fits, by simpa using ⟨hx, harcs⟩⟩
      · rintro (⟨-, hnil⟩ | ⟨x, arcs, hbs, ⟨-, fits⟩ | ⟨high, -⟩, harcs⟩)
        · cases hnil
        · obtain ⟨rfl, rfl⟩ := List.cons.inj hbs
          refine ⟨fits, ?_⟩
          cases arcs with
          | nil => exact .inl ⟨rfl, rfl⟩
          | cons x arcs =>
            rw [List.forall_mem_cons] at harcs
            exact .inr ⟨x, arcs, rfl, harcs⟩
        · rw [(List.cons.inj hbs).1] at low
          exact absurd low (UInt8.not_lt.2 high)
    · rw [acceptsArcs_cons_high low]
      constructor
      · rintro ⟨hlt, hrest⟩
        obtain ⟨hzero, -⟩ | ⟨x, arcs, rfl, hx, harcs⟩ := (ih hlt).1 hrest
        · cases hzero
        · exact .inr ⟨b :: x, arcs, rfl, .more (UInt8.not_lt.1 low) hx, harcs⟩
      · rintro (⟨-, hnil⟩ | ⟨x, arcs, hbs, ⟨low', -⟩ | ⟨high, rest⟩, harcs⟩)
        · cases hnil
        · rw [(List.cons.inj hbs).1] at low
          exact absurd low' low
        · obtain ⟨rfl, rfl⟩ := List.cons.inj hbs
          have hlt : place < 4 := rest.place_le
          exact ⟨hlt, (ih hlt).2 (.inr ⟨_, arcs, rfl, rest, harcs⟩)⟩

/-- What the strict reader checks of an identifier. -/
theorem isStrict_iff (oid : Oid) :
    oid.IsStrict ↔ oid.content.length ≤ maxContent ∧ accepts oid.content := by
  have harcs := acceptsArcs_iff (Nat.zero_le 4)
  obtain ⟨_ | ⟨first, rest⟩⟩ := oid
  · refine ⟨fun ⟨_, _, _, _, hcontent, _⟩ => (nomatch hcontent), fun h => ?_⟩
    exact absurd h.2 (by decide)
  · simp only [accepts, Bool.and_eq_true, decide_eq_true_eq, List.length_cons, maxContent, harcs]
    constructor
    · rintro ⟨least, greatest, first', arcs, hcontent, hfirst, hall⟩
      obtain ⟨rfl, rfl⟩ := List.cons.inj hcontent
      refine ⟨greatest, ⟨Nat.le_of_succ_le_succ least, hfirst⟩, ?_⟩
      cases arcs with
      | nil => exact .inl ⟨trivial, rfl⟩
      | cons x arcs => exact .inr ⟨x, arcs, rfl, List.forall_mem_cons.1 hall⟩
    · rintro ⟨greatest, ⟨least, hfirst⟩, ⟨-, rfl⟩ | ⟨x, arcs, rfl, hall⟩⟩
      · exact absurd least (by decide)
      · exact ⟨Nat.succ_le_succ least, greatest, first, x :: arcs, rfl, hfirst,
          List.forall_mem_cons.2 hall⟩

instance : DecidablePred IsStrict := fun oid => decidable_of_iff _ (isStrict_iff oid).symm

end NodePki.Oid
