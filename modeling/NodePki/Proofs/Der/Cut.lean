import NodePki.Proofs.Der.Reader

/-!
# Values cut short and continued

What the strict reader says of octets that are a value but for their end, which is missing, and of a
value after which octets follow. A reader starves on a form (`Starves`) if it calls every input
incomplete that ends within the form; readers one after another starve on their forms one after
another (`Starves.bind`), up to the reader of any value (`starves_any`). So a whole message can
neither be cut (`Starves.decode`) nor continued (`Reads.decode_append`).
-/

namespace NodePki.Der

variable {α β : Type}

/-- The input ends within the octets: it is the beginning of them, and not the whole. -/
structure Cursor.EndsWithin (c : Cursor) (bs : Bytes) : Prop where
  begins : c.rest <+: bs
  short : c.rest.length < bs.length
  fits : c.position + bs.length ≤ maxLength

/-- The reader says that there are `actual` octets and more are needed, up to `limit` of them. -/
def SaysIncomplete (x : Except Error α) (actual limit : Nat) : Prop :=
  ∃ expected position, x = .error (.incomplete expected actual position) ∧
    actual < expected ∧ expected ≤ limit

/-- The reader calls an input incomplete that ends within a form. -/
def Starves (r : Reader α) (Form : α → Bytes → Prop) : Prop :=
  ∀ (c : Cursor) (a : α) (bs : Bytes), Form a bs → c.EndsWithin bs →
    SaysIncomplete (r c) (c.position + c.rest.length) (c.position + bs.length)

section Rules

variable {r : Reader α} {f : α → Reader β} {Form Form' : α → Bytes → Prop}
  {Next : α → β → Bytes → Prop}

theorem Starves.mono (h : Starves r Form)
    (imp : ∀ a bs, bs.length ≤ maxLength → Form' a bs → Form a bs) : Starves r Form' :=
  fun c a bs hform hend => h c a bs (imp a bs (Nat.le_of_add_left_le hend.fits) hform) hend

/-- No input ends within nothing. -/
theorem starves_nil : Starves r (fun _ bs => bs = []) := by
  rintro c a _ rfl hend
  exact absurd hend.short (Nat.not_lt_zero _)

/-- The input ends within the first form, or within the one after it. -/
theorem Starves.bind (hr : Reads r Form) (starves : Starves r Form)
    (next : ∀ a, Starves (f a) (Next a)) :
    Starves (r >>= f) (fun b bs => ∃ a x y, Form a x ∧ Next a b y ∧ bs = x ++ y) := by
  rintro c b _ ⟨a, x, y, hx, hy, rfl⟩ ⟨begins, short, fits⟩
  rw [List.length_append] at short fits
  by_cases hlt : c.rest.length < x.length
  · have hbegins : c.rest <+: x :=
      List.prefix_of_prefix_length_le begins (List.prefix_append x y) (Nat.le_of_lt hlt)
    obtain ⟨expected, position, hrun, more, bound⟩ := starves c a x hx ⟨hbegins, hlt, by omega⟩
    refine ⟨expected, position, ?_, more, by rw [List.length_append]; omega⟩
    show (r c >>= fun p => f p.1 p.2) = _
    rw [hrun]
    rfl
  · obtain ⟨z, hz⟩ : x <+: c.rest :=
      List.prefix_of_prefix_length_le (List.prefix_append x y) begins (Nat.le_of_not_lt hlt)
    have hlength : x.length + z.length = c.rest.length := by rw [← List.length_append, hz]
    have hpass : c.Passes x ⟨c.position + x.length, z⟩ :=
      ⟨hz.symm, rfl, show c.position + x.length ≤ maxLength by omega⟩
    have hrun : r c = .ok (a, ⟨c.position + x.length, z⟩) :=
      (hr c (by omega) a _).2 ⟨x, hx, hpass⟩
    have hbegins : z <+: y := by rwa [← hz, List.prefix_append_right_inj] at begins
    obtain ⟨expected, position, hnext, more, bound⟩ :=
      next a ⟨c.position + x.length, z⟩ b y hy
        ⟨hbegins, show z.length < y.length by omega,
          show c.position + x.length + y.length ≤ maxLength by omega⟩
    refine ⟨expected, position, ?_, ?_, ?_⟩
    · show (r c >>= fun p => f p.1 p.2) = _
      rw [hrun, ← hlength, ← Nat.add_assoc]
      exact hnext
    · rwa [← hlength, ← Nat.add_assoc]
    · rwa [List.length_append, ← Nat.add_assoc]

end Rules

namespace Reader

theorem starves_octet : Starves octet (fun b bs => bs = [b]) := by
  rintro c b _ rfl ⟨-, short, fits⟩
  have hrest : c.rest = [] := List.eq_nil_of_length_eq_zero (Nat.lt_one_iff.1 short)
  have hfits : ¬ maxLength < c.position + 1 := Nat.not_lt_of_le fits
  refine ⟨c.position + 1, c.position, ?_, ?_, Nat.le_refl _⟩
  · rw [octet, if_neg hfits, hrest]
    rfl
  · rw [hrest]
    exact Nat.lt_succ_self _

theorem starves_take (n : Nat) : Starves (take n) (fun x bs => bs = x ∧ x.length = n) := by
  rintro c x bs ⟨rfl, rfl⟩ ⟨-, short, fits⟩
  refine ⟨c.position + bs.length, c.position, ?_, Nat.add_lt_add_left short _, Nat.le_refl _⟩
  rw [take, if_neg (Nat.not_lt_of_le fits), if_pos short]

theorem starves_octets (n : Nat) : Starves (octets n) (fun x bs => bs = x ∧ x.length = n) := by
  induction n with
  | zero =>
    refine starves_nil.mono ?_
    rintro x bs - ⟨rfl, hlength⟩
    exact List.eq_nil_of_length_eq_zero hlength
  | succ n ih =>
    refine (Starves.bind reads_octet starves_octet fun b =>
      Starves.bind (reads_octets n) ih fun bs => starves_nil).mono ?_
    rintro _ (_ | ⟨b, bs⟩) - ⟨rfl, hlength⟩
    · cases hlength
    · exact ⟨b, [b], bs, rfl, ⟨bs, bs, [], ⟨rfl, Nat.succ.inj hlength⟩, rfl, by simp⟩, rfl⟩

theorem starves_tag : Starves tag (fun t bs => bs = [t.octet]) := by
  refine (Starves.bind reads_octet starves_octet fun b => starves_nil).mono ?_
  rintro t bs - rfl
  exact ⟨t.octet, [t.octet], [], rfl, rfl, rfl⟩

/-- The input ends within a length before its first octet, or before it has all the octets that the
first one counts. -/
theorem starves_length (t : Tag) :
    Starves (length t) (fun n bs => n ≤ maxLength ∧ IsLength n bs) := by
  refine (Starves.bind reads_octet starves_octet fun b =>
    (?after : Starves _ fun n bs => n ≤ maxLength ∧ IsLength n (b :: bs))).mono ?_
  case after =>
    intro c n bs ⟨hn, hlength⟩ hend
    obtain ⟨hopen, hmany⟩ := head_of_isLength hlength hn
    obtain ⟨-, -, rfl⟩ | ⟨first, rest, rfl, -, -, -, -, hcount⟩ := isLength_cons_iff.1 hlength
    · exact absurd hend.short (Nat.not_lt_zero _)
    have high : ¬ b < 0x80 := Nat.not_lt.2 (show 128 ≤ b.toNat by omega)
    have hopen : b ≠ 0x80 := fun h => hopen (congrArg UInt8.toNat h)
    have hmany : ¬ 0x84 < b := Nat.not_lt.2 hmany
    have hdigits : b.toNat - 0x80 = rest.length + 1 := by omega
    rw [if_neg high, if_neg hopen, if_neg hmany, hdigits]
    exact Starves.bind (reads_octets _) (starves_octets _) (fun _ => starves_nil) c n _
      ⟨first :: rest, first :: rest, [], ⟨rfl, rfl⟩, rfl, (List.append_nil _).symm⟩ hend
  rintro n bs - ⟨hn, hlength⟩
  cases bs with
  | nil => cases hlength
  | cons b bs => exact ⟨b, [b], bs, rfl, ⟨hn, hlength⟩, rfl⟩

theorem starves_header : Starves header (fun v bs => v.2 ≤ maxLength ∧
    ∃ len, IsLength v.2 len ∧ bs = v.1.octet :: len) := by
  refine (Starves.bind reads_tag starves_tag fun t =>
    Starves.bind (reads_length t) (starves_length t) fun n => starves_nil).mono ?_
  rintro ⟨t, n⟩ bs - ⟨hn, len, hlen, rfl⟩
  exact ⟨t, [t.octet], len, rfl, ⟨n, len, [], ⟨hn, hlen⟩, rfl, by simp⟩, rfl⟩

/-- The input ends within the tag, the length or the content of a value. -/
theorem starves_any : Starves any (fun v bs => IsValue v.1 v.2 bs) := by
  refine (Starves.bind reads_header starves_header fun v =>
    Starves.bind (reads_take v.2) (starves_take v.2) fun x => starves_nil).mono ?_
  rintro ⟨t, content⟩ bs hbs ⟨hlen⟩
  simp only [List.length_append, List.length_cons] at hbs
  exact ⟨(t, content.length), _, content, ⟨by omega, _, hlen, rfl⟩,
    ⟨content, content, [], ⟨rfl, rfl⟩, rfl, by simp⟩, rfl⟩

end Reader

/-! ## Whole messages -/

section Messages

variable {r : Reader α} {Form : α → Bytes → Prop} {a : α} {bs : Bytes}

/-- A message without its end is incomplete, and needs no more than the message had. -/
theorem Starves.decode (hr : Starves r Form) (hform : Form a bs) (hfits : bs.length ≤ maxLength)
    {cut : Bytes} (begins : cut <+: bs) (proper : cut ≠ bs) :
    SaysIncomplete (Der.decode r cut) cut.length bs.length := by
  have short : cut.length < bs.length :=
    Nat.lt_of_le_of_ne begins.length_le fun h => proper (begins.eq_of_length h)
  obtain ⟨expected, position, hrun, more, bound⟩ :=
    hr ⟨0, cut⟩ a bs hform ⟨begins, short, by rwa [Nat.zero_add]⟩
  rw [Nat.zero_add] at hrun more bound
  refine ⟨expected, position, ?_, more, bound⟩
  rw [Der.decode, if_neg (Nat.not_lt_of_le (Nat.le_trans begins.length_le hfits)), hrun]
  rfl

/-- A message with more after its end has trailing octets, unless it has become too long. -/
theorem Reads.decode_append (hr : Reads r Form) (hform : Form a bs) {more : Bytes}
    (hmore : more ≠ []) :
    Der.decode r (bs ++ more) =
      if maxLength < (bs ++ more).length then .error .overflow
      else .error (.trailing bs.length more.length) := by
  rw [Der.decode]
  split
  · rfl
  next hfits =>
  have hpass : (Cursor.mk 0 (bs ++ more)).Passes bs ⟨bs.length, more⟩ := by
    refine ⟨rfl, (Nat.zero_add _).symm, ?_⟩
    rw [List.length_append] at hfits
    show bs.length ≤ maxLength
    omega
  rw [(hr ⟨0, bs ++ more⟩ (Nat.zero_le _) a _).2 ⟨bs, hform, hpass⟩]
  show (if more.isEmpty then _ else _) = _
  rw [if_neg (by simpa using hmore)]
  rfl

end Messages

end NodePki.Der
