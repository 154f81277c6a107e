import NodePki.Der.Reader
import NodePki.Proofs.Der.Oid
import NodePki.Proofs.Der.Value
import NodePki.Text.Utf8.Lemmas

/-!
# What the strict reader takes

A reader has a form: for each answer, the octets that it takes to come to that answer, and no
others (`Reads`). Forms of readers one after another are joined (`Reads.bind`). The form of each
reader here is that of the grammar, up to the reader of any value (`reads_any`); `decode` takes a
form as a whole message (`Reads.decode_eq_ok_iff`).
-/

namespace NodePki

/-- Two steps that may fail come to a result if both do. -/
theorem bind_eq_ok_iff {ε α β : Type} {x : Except ε α} {f : α → Except ε β} {b : β} :
    (x >>= f) = .ok b ↔ ∃ a, x = .ok a ∧ f a = .ok b := by
  cases x <;> simp [bind, Except.bind]

/-- What is computed to be a result that passes a test is such a result. -/
theorem exists_ok_of_any {ε α : Type} {x : Except ε α} {p : α → Bool} (h : x.toOption.any p) :
    ∃ a, x = .ok a ∧ p a := by
  cases x with
  | error e => cases h
  | ok a => exact ⟨a, rfl, h⟩

namespace Der

/-- From one cursor to another of the same input, with the octets between them. -/
structure Cursor.Passes (c : Cursor) (bs : Bytes) (c' : Cursor) : Prop where
  rest : c.rest = bs ++ c'.rest
  position : c'.position = c.position + bs.length
  fits : c'.position ≤ maxLength

namespace Cursor

variable {c c' : Cursor} {x y : Bytes}

theorem passes_nil (h : c.position ≤ maxLength) : c.Passes [] c' ↔ c' = c := by
  constructor
  · rintro ⟨rest, position, -⟩
    cases c; cases c'
    simp_all
  · rintro rfl
    exact ⟨rfl, rfl, h⟩

theorem passes_append : c.Passes (x ++ y) c' ↔ ∃ d, c.Passes x d ∧ d.Passes y c' := by
  constructor
  · rintro ⟨rest, position, fits⟩
    rw [List.length_append] at position
    refine ⟨⟨c.position + x.length, y ++ c'.rest⟩, ⟨?_, rfl, ?_⟩, ⟨rfl, ?_, fits⟩⟩
    · rw [rest, List.append_assoc]
    · show c.position + x.length ≤ maxLength
      omega
    · rw [position, Nat.add_assoc]
  · rintro ⟨d, ⟨rest, position, -⟩, ⟨rest', position', fits'⟩⟩
    refine ⟨?_, ?_, fits'⟩
    · rw [rest, rest', List.append_assoc]
    · rw [position', position, List.length_append, Nat.add_assoc]

theorem Passes.length_le (h : c.Passes x c') : x.length ≤ maxLength := by
  have := h.position ▸ h.fits
  omega

end Cursor

variable {α β : Type}

/-- A reader comes to an answer just over the octets that are a form of it. -/
def Reads (r : Reader α) (Form : α → Bytes → Prop) : Prop :=
  ∀ c : Cursor, c.position ≤ maxLength → ∀ a c',
    r c = .ok (a, c') ↔ ∃ bs, Form a bs ∧ c.Passes bs c'

section Rules

variable {r : Reader α} {f : α → Reader β} {Form Form' : α → Bytes → Prop}
  {Next : α → β → Bytes → Prop}

theorem Reads.congr (h : Reads r Form)
    (same : ∀ a bs, bs.length ≤ maxLength → (Form a bs ↔ Form' a bs)) : Reads r Form' := by
  intro c hc a c'
  rw [h c hc]
  refine exists_congr fun bs => and_congr_left fun hbs => same a bs hbs.length_le

theorem reads_pure (a : α) : Reads (pure a) (fun b bs => b = a ∧ bs = []) := by
  intro c hc b c'
  simp only [and_assoc, exists_eq_left, exists_and_left, Cursor.passes_nil hc]
  constructor
  · intro h
    cases h
    exact ⟨rfl, rfl⟩
  · rintro ⟨rfl, rfl⟩
    rfl

theorem reads_fail (e : Error) : Reads (Reader.fail e : Reader α) (fun _ _ => False) := by
  intro c _ a c'
  simp [Reader.fail]

/-- A reader that goes on under a condition. -/
theorem reads_if {p : Prop} [Decidable p] (hr : p → Reads r Form) (e : Error) :
    Reads (if p then r else Reader.fail e) (fun a bs => p ∧ Form a bs) := by
  split
  · next h => exact (hr h).congr fun a bs _ => (and_iff_right h).symm
  · next h => exact (reads_fail e).congr fun a bs _ => iff_of_false not_false fun hp => h hp.1

/-- A reader that goes on unless something is wrong. -/
theorem reads_unless {p : Prop} [Decidable p] (hr : ¬ p → Reads r Form) (e : Error) :
    Reads (if p then Reader.fail e else r) (fun a bs => ¬ p ∧ Form a bs) := by
  rw [← ite_not]
  exact reads_if hr e

/-- Readers one after another take forms one after another. -/
theorem Reads.bind (hr : Reads r Form) (hf : ∀ a, Reads (f a) (Next a)) :
    Reads (r >>= f) (fun b bs => ∃ a x y, Form a x ∧ Next a b y ∧ bs = x ++ y) := by
  intro c hc b c'
  refine bind_eq_ok_iff.trans ?_
  constructor
  · rintro ⟨⟨a, d⟩, ha, hb⟩
    obtain ⟨x, hx, hcd⟩ := (hr c hc a d).1 ha
    obtain ⟨y, hy, hdc'⟩ := (hf a d hcd.fits b c').1 hb
    exact ⟨x ++ y, ⟨a, x, y, hx, hy, rfl⟩, Cursor.passes_append.2 ⟨d, hcd, hdc'⟩⟩
  · rintro ⟨_, ⟨a, x, y, hx, hy, rfl⟩, hpass⟩
    obtain ⟨d, hcd, hdc'⟩ := Cursor.passes_append.1 hpass
    exact ⟨(a, d), (hr c hc a d).2 ⟨x, hx, hcd⟩, (hf a d hcd.fits b c').2 ⟨y, hy, hdc'⟩⟩

/-- A whole message is a form that is not too long. -/
theorem Reads.decode_eq_ok_iff (hr : Reads r Form) {a : α} {bs : Bytes} :
    decode r bs = .ok a ↔ bs.length ≤ maxLength ∧ Form a bs := by
  rw [decode]
  split
  · next h => simp [Nat.not_le_of_lt h]
  next h =>
  have hfits : bs.length ≤ maxLength := Nat.le_of_not_lt h
  have hread := hr ⟨0, bs⟩ (Nat.zero_le _)
  rw [bind_eq_ok_iff, and_iff_right hfits]
  constructor
  · rintro ⟨⟨a', c'⟩, hrun, hend⟩
    obtain ⟨x, hx, hpass⟩ := (hread a' c').1 hrun
    dsimp only at hend
    split at hend
    · next hnil =>
      have hx' : bs = x := by simpa [List.isEmpty_iff.1 hnil] using hpass.rest
      cases hend
      exact hx' ▸ hx
    · cases hend
  · intro hform
    exact ⟨(a, ⟨bs.length, []⟩), (hread _ _).2 ⟨bs, hform, by simp, by simp, hfits⟩, rfl⟩

end Rules

namespace Reader

/-! ## Octets, tags and lengths -/

theorem reads_octet : Reads octet (fun b bs => bs = [b]) := by
  intro c hc b c'
  simp only [exists_eq_left]
  rw [octet]
  constructor
  · intro h
    split at h
    · cases h
    next hfits =>
    split at h
    · cases h
    · next hrest =>
      cases h
      exact ⟨hrest, rfl, Nat.le_of_not_lt hfits⟩
  · rintro ⟨rest, position, fits⟩
    rw [if_neg (by rw [position] at fits; exact Nat.not_lt.2 fits), rest]
    simp only [List.cons_append, List.nil_append]
    cases c'
    simp_all

theorem reads_take (n : Nat) : Reads (take n) (fun x bs => bs = x ∧ x.length = n) := by
  intro c hc x c'
  rw [take]
  constructor
  · intro h
    split at h
    · cases h
    next hfits =>
    split at h
    · cases h
    next hlong =>
    cases h
    have hlen : (c.rest.take n).length = n := by
      rw [List.length_take]
      omega
    refine ⟨_, ⟨rfl, hlen⟩, (List.take_append_drop n c.rest).symm, ?_, Nat.le_of_not_lt hfits⟩
    rw [hlen]
  · rintro ⟨_, ⟨rfl, rfl⟩, rest, position, fits⟩
    rw [if_neg (by rw [position] at fits; exact Nat.not_lt.2 fits), rest, if_neg (by simp)]
    cases c'
    simp_all

theorem reads_octets (n : Nat) : Reads (octets n) (fun x bs => bs = x ∧ x.length = n) := by
  induction n with
  | zero =>
    refine (reads_pure []).congr fun x bs _ => ?_
    rw [List.length_eq_zero_iff]
    constructor <;> rintro ⟨rfl, rfl⟩ <;> exact ⟨rfl, rfl⟩
  | succ n ih =>
    refine (reads_octet.bind fun b => ih.bind fun bs => reads_pure (b :: bs)).congr ?_
    rintro x bs -
    constructor
    · rintro ⟨b, _, _, rfl, ⟨_, _, _, ⟨rfl, rfl⟩, ⟨rfl, rfl⟩, rfl⟩, rfl⟩
      exact ⟨by simp, rfl⟩
    · rintro ⟨rfl, hlen⟩
      cases bs with
      | nil => cases hlen
      | cons b bs =>
        exact ⟨b, [b], bs, rfl, ⟨bs, bs, [], ⟨rfl, Nat.succ.inj hlen⟩, ⟨rfl, rfl⟩, by simp⟩, rfl⟩

theorem reads_tag : Reads tag (fun t bs => bs = [t.octet]) := by
  refine (reads_octet.bind fun b => reads_unless (fun _ =>
    (?known : Reads _ fun (t : Tag) bs => b = t.octet ∧ bs = [])) _).congr fun t bs _ => ?_
  case known =>
    split
    · next t ht =>
      refine (reads_pure t).congr fun t' bs _ => and_congr_left fun _ => ?_
      constructor
      · rintro rfl
        exact (Tag.octet_of_ofOctet? ht).symm
      · rintro rfl
        rw [Tag.ofOctet?_octet] at ht
        exact Option.some.inj ht
    · next hnone =>
      refine (reads_fail _).congr fun t bs _ => iff_of_false not_false ?_
      rintro ⟨rfl, -⟩
      rw [Tag.ofOctet?_octet] at hnone
      cases hnone
  constructor
  · rintro ⟨_, _, _, rfl, ⟨-, rfl, rfl⟩, rfl⟩
    rfl
  · rintro rfl
    exact ⟨_, _, _, rfl, ⟨by simp [Tag.hasLongNumber_octet], rfl, rfl⟩, rfl⟩

/-- A length by its first octet: that is the length itself, or tells how many octets follow. -/
theorem isLength_cons_iff {n : Nat} {b : UInt8} {bs : Bytes} :
    IsLength n (b :: bs) ↔
      b.toNat < 0x80 ∧ n = b.toNat ∧ bs = [] ∨
        ∃ first rest, bs = first :: rest ∧ first ≠ 0 ∧ n = Bytes.toNat bs ∧ 0x80 ≤ n ∧
          rest.length < 126 ∧ b.toNat = 0x81 + rest.length := by
  constructor
  · rintro (small | ⟨significant, large, few⟩)
    · rw [Utf8.toNat_ofNat_small (by omega)]
      exact .inl ⟨small, rfl, rfl⟩
    · refine .inr ⟨_, _, rfl, significant, rfl, large, few, ?_⟩
      rw [Utf8.toNat_ofNat_small (by omega)]
      omega
  · rintro (⟨small, rfl, rfl⟩ | ⟨first, rest, rfl, significant, rfl, large, few, hb⟩)
    · have := IsLength.short small
      rwa [UInt8.ofNat_toNat] at this
    · have := IsLength.long significant large few
      rwa [show 0x80 + (rest.length + 1) = b.toNat by omega, UInt8.ofNat_toNat] at this

/-- The first octet of a length within the limit leaves the length not open, and counts at most four
octets. -/
theorem head_of_isLength {n : Nat} {b : UInt8} {bs : Bytes} (h : IsLength n (b :: bs))
    (hn : n ≤ maxLength) : b.toNat ≠ 0x80 ∧ b.toNat ≤ 0x84 := by
  obtain ⟨low, -⟩ | ⟨first, rest, rfl, significant, rfl, -, -, hcount⟩ := isLength_cons_iff.1 h
  · omega
  have hrest : rest.length < 4 := by
    refine Nat.lt_of_not_le fun hmany => ?_
    have hle : 256 ^ rest.length ≤ Bytes.toNat (first :: rest) :=
      Bytes.pow_le_toNat_cons_iff.2 significant
    have hpow : 256 ^ 4 ≤ 256 ^ rest.length := Nat.pow_le_pow_right (by decide) hmany
    exact absurd (Nat.le_trans hpow (Nat.le_trans hle hn)) (by decide)
  omega

/-- Octets are the least that can hold their number if they do not begin with zero. -/
theorem isShortest_cons_iff {first : UInt8} {rest : Bytes} :
    isShortest (rest.length + 1) (Bytes.toNat (first :: rest)) ↔
      0x80 ≤ Bytes.toNat (first :: rest) ∧ first ≠ 0 := by
  have hfirst := Bytes.pow_le_toNat_cons_iff (x := first) (b := rest)
  simp only [isShortest, Nat.add_sub_cancel, Nat.pow_eq, Bool.and_eq_true, Bool.or_eq_true,
    decide_eq_true_eq, beq_iff_eq, hfirst]
  refine and_congr_right fun large => or_iff_right_of_imp fun hone => ?_
  rw [List.eq_nil_of_length_eq_zero (Nat.succ.inj hone)] at large
  rintro rfl
  exact absurd large (by decide)

/-- The octets after the first one of a long length. -/
theorem reads_digits (t : Tag) (count : Nat) : Reads
    (do
      let len := Bytes.toNat (← octets (count + 1))
      if maxLength < len then fail .overflow
      else if isShortest (count + 1) len then return len
      else fail (.length t) : Reader Nat)
    (fun n bs => n ≤ maxLength ∧ ∃ first rest, bs = first :: rest ∧ rest.length = count ∧
      first ≠ 0 ∧ 0x80 ≤ n ∧ n = Bytes.toNat bs) := by
  refine ((reads_octets _).bind fun digits =>
    reads_unless (fun _ => reads_if (fun _ => reads_pure _) _) _).congr fun n bs _ => ?_
  constructor
  · rintro ⟨_ | ⟨first, rest⟩, _, _, ⟨rfl, hcount⟩, ⟨hfits, hshort, rfl, rfl⟩, rfl⟩
    · cases hcount
    · cases hcount
      obtain ⟨large, significant⟩ := isShortest_cons_iff.1 hshort
      exact ⟨Nat.le_of_not_lt hfits, first, rest, by rw [List.append_nil], rfl, significant, large,
        by rw [List.append_nil]⟩
  · rintro ⟨hn, first, rest, rfl, rfl, significant, large, rfl⟩
    have hshort := isShortest_cons_iff.2 ⟨large, significant⟩
    exact ⟨_, _, [], ⟨rfl, rfl⟩, ⟨Nat.not_lt_of_le hn, hshort, rfl, rfl⟩, (List.append_nil _).symm⟩

/-- A length by what its first octet says. -/
theorem reads_length (t : Tag) : Reads (length t) (fun n bs => n ≤ maxLength ∧ IsLength n bs) := by
  refine (reads_octet.bind fun b =>
    (?after : Reads _ fun n bs => n ≤ maxLength ∧ IsLength n (b :: bs))).congr fun n bs _ => ?_
  case after =>
    split
    · next low =>
      have low : b.toNat < 128 := low
      refine (reads_pure _).congr fun n bs _ => ?_
      rw [isLength_cons_iff]
      constructor
      · rintro ⟨rfl, rfl⟩
        exact ⟨Nat.le_trans (Nat.le_of_lt low) (by decide), .inl ⟨low, rfl, rfl⟩⟩
      · rintro ⟨-, ⟨-, rfl, rfl⟩ | ⟨first, rest, -, -, -, -, -, hcount⟩⟩
        · exact ⟨rfl, rfl⟩
        · omega
    next high =>
    have high : 128 ≤ b.toNat := Nat.le_of_not_lt high
    split
    · next hopen =>
      refine (reads_fail _).congr fun n bs _ => iff_of_false not_false ?_
      rintro ⟨hn, hlen⟩
      exact (head_of_isLength hlen hn).1 (congrArg UInt8.toNat hopen)
    next hopen =>
    have hopen : b.toNat ≠ 128 := fun h => hopen (UInt8.toNat_inj.1 h)
    split
    · next hmany =>
      refine (reads_fail _).congr fun n bs _ => iff_of_false not_false ?_
      rintro ⟨hn, hlen⟩
      exact absurd (head_of_isLength hlen hn).2 (Nat.not_le_of_lt hmany)
    next hmany =>
    have hmany : b.toNat ≤ 132 := Nat.le_of_not_lt hmany
    obtain ⟨count, hcount⟩ : ∃ count, b.toNat - 0x80 = count + 1 := ⟨b.toNat - 0x81, by omega⟩
    rw [hcount]
    refine (reads_digits t count).congr fun n bs _ => and_congr_right fun _ => ?_
    rw [isLength_cons_iff]
    constructor
    · rintro ⟨first, rest, hbs, rfl, significant, large, hn⟩
      exact .inr ⟨first, rest, hbs, significant, hn, large, by omega, by omega⟩
    · rintro (⟨hlow, -⟩ | ⟨first, rest, hbs, significant, hn, large, -, hb⟩)
      · omega
      · exact ⟨first, rest, hbs, by omega, significant, large, hn⟩
  constructor
  · rintro ⟨_, _, _, rfl, hform, rfl⟩
    exact hform
  · rintro ⟨hn, hlen⟩
    cases hlen with
    | short small => exact ⟨_, _, _, rfl, ⟨hn, .short small⟩, rfl⟩
    | long significant large few => exact ⟨_, _, _, rfl, ⟨hn, .long significant large few⟩, rfl⟩

/-! ## Values -/

theorem reads_header : Reads header (fun v bs => v.2 ≤ maxLength ∧
    ∃ len, IsLength v.2 len ∧ bs = v.1.octet :: len) := by
  refine (reads_tag.bind fun t => (reads_length t).bind fun n => reads_pure (t, n)).congr ?_
  rintro ⟨t, n⟩ bs -
  constructor
  · rintro ⟨_, _, _, rfl, ⟨_, len, _, ⟨hn, hlen⟩, ⟨hv, rfl⟩, rfl⟩, rfl⟩
    cases hv
    exact ⟨hn, len, hlen, by simp⟩
  · rintro ⟨hn, len, hlen, rfl⟩
    exact ⟨t, _, len, rfl, ⟨n, len, [], ⟨hn, hlen⟩, ⟨rfl, rfl⟩, by simp⟩, rfl⟩

/-- Any value. -/
theorem reads_any : Reads any (fun v bs => IsValue v.1 v.2 bs) := by
  refine (reads_header.bind fun v => (reads_take v.2).bind fun x => reads_pure (v.1, x)).congr ?_
  rintro ⟨t, content⟩ bs hbs
  constructor
  · rintro ⟨⟨t, _⟩, _, _, ⟨-, len, hlen, rfl⟩, ⟨_, _, _, ⟨rfl, rfl⟩, ⟨hv, rfl⟩, rfl⟩, rfl⟩
    cases hv
    rw [List.append_nil]
    exact .mk hlen
  · rintro ⟨hlen⟩
    simp only [List.length_append, List.length_cons] at hbs
    exact ⟨(t, content.length), _, content, ⟨by omega, _, hlen, rfl⟩,
      ⟨content, content, [], ⟨rfl, rfl⟩, ⟨rfl, rfl⟩, by simp⟩, rfl⟩

theorem reads_headerOf (t : Tag) : Reads (headerOf t) (fun n bs => n ≤ maxLength ∧
    ∃ len, IsLength n len ∧ bs = t.octet :: len) := by
  refine (reads_header.bind fun v => reads_if (fun _ => reads_pure v.2) _).congr fun n bs _ => ?_
  constructor
  · rintro ⟨_, _, _, ⟨hn, len, hlen, rfl⟩, ⟨rfl, rfl, rfl⟩, rfl⟩
    exact ⟨hn, len, hlen, by simp⟩
  · rintro ⟨hn, len, hlen, rfl⟩
    exact ⟨(t, n), _, [], ⟨hn, len, hlen, rfl⟩, ⟨rfl, rfl, rfl⟩, by simp⟩

/-- A value with the given tag, of which a part that follows its header takes the content. -/
theorem reads_valueOf {α : Type} {t : Tag} {f : Nat → Reader α} {Content : α → Bytes → Prop}
    (hf : ∀ n, Reads (f n) (fun a bs => bs.length = n ∧ Content a bs)) :
    Reads (headerOf t >>= f) (fun a bs => ∃ content, IsValue t content bs ∧ Content a content) := by
  refine ((reads_headerOf t).bind hf).congr fun a bs hbs => ?_
  constructor
  · rintro ⟨_, _, content, ⟨-, len, hlen, rfl⟩, ⟨rfl, hcontent⟩, rfl⟩
    exact ⟨content, .mk hlen, hcontent⟩
  · rintro ⟨content, ⟨hlen⟩, hcontent⟩
    simp only [List.length_append, List.length_cons] at hbs
    exact ⟨content.length, _, content, ⟨by omega, _, hlen, rfl⟩, ⟨rfl, hcontent⟩, rfl⟩

/-- An object identifier. -/
theorem reads_oid :
    Reads oid (fun o bs => IsValue .objectIdentifier o.content bs ∧ o.IsStrict) := by
  refine (reads_valueOf fun n =>
    (?content : Reads _ fun (o : Oid) bs => bs.length = n ∧ o = ⟨bs⟩ ∧ o.IsStrict)).congr ?_
  case content =>
    refine (reads_unless (fun _ => (reads_take n).bind fun content =>
      reads_if (fun _ => reads_pure (Oid.mk content)) _) _).congr fun o bs _ => ?_
    constructor
    · rintro ⟨hfits, content, _, _, ⟨rfl, rfl⟩, ⟨haccepts, rfl, rfl⟩, rfl⟩
      rw [List.append_nil]
      exact ⟨rfl, rfl, (Oid.isStrict_iff _).2 ⟨Nat.le_of_not_lt hfits, haccepts⟩⟩
    · rintro ⟨rfl, rfl, hstrict⟩
      obtain ⟨hfits, haccepts⟩ := (Oid.isStrict_iff _).1 hstrict
      exact ⟨Nat.not_lt_of_le hfits, bs, bs, [], ⟨rfl, rfl⟩, ⟨haccepts, rfl, rfl⟩, by simp⟩
  rintro o bs -
  constructor
  · rintro ⟨content, hvalue, rfl, hstrict⟩
    exact ⟨hvalue, hstrict⟩
  · rintro ⟨hvalue, hstrict⟩
    exact ⟨_, hvalue, rfl, hstrict⟩

/-- A text. -/
theorem reads_utf8String :
    Reads utf8String (fun s bs => IsValue .utf8String (Utf8.encode s) bs) := by
  refine (reads_valueOf fun n =>
    (?content : Reads _ fun (s : String) bs => bs.length = n ∧ bs = Utf8.encode s)).congr ?_
  case content =>
    refine ((reads_take n).bind fun content =>
      (?text : Reads _ fun (s : String) bs => content = Utf8.encode s ∧ bs = [])).congr ?_
    case text =>
      split
      · next s hs =>
        refine (reads_pure s).congr fun s' bs _ => and_congr_left fun _ => ?_
        rw [← Utf8.decode_eq_ok_iff, hs, Except.ok.injEq, eq_comm]
      · next e he =>
        refine (reads_fail _).congr fun s bs _ => iff_of_false not_false ?_
        rintro ⟨hcontent, -⟩
        rw [Utf8.decode_eq_ok_iff.2 hcontent] at he
        cases he
    rintro s bs -
    constructor
    · rintro ⟨_, _, _, ⟨rfl, rfl⟩, ⟨rfl, rfl⟩, rfl⟩
      rw [List.append_nil]
      exact ⟨rfl, rfl⟩
    · rintro ⟨rfl, rfl⟩
      exact ⟨_, _, [], ⟨rfl, rfl⟩, ⟨rfl, rfl⟩, by simp⟩
  rintro s bs -
  simp

end Reader

/-! ## Values before others -/

/-- A value at the start of some octets is told apart from all that follows it. -/
theorem tlv_append_inj {t t' : Tag} {content content' rest rest' : Bytes}
    (h : (tlv t content ++ rest).length ≤ maxLength)
    (heq : tlv t content ++ rest = tlv t' content' ++ rest') :
    t = t' ∧ content = content' ∧ rest = rest' := by
  have hread : ∀ {t content rest}, (tlv t content ++ rest).length ≤ maxLength →
      Reader.any ⟨0, tlv t content ++ rest⟩ =
        .ok ((t, content), ⟨(tlv t content).length, rest⟩) := by
    intro t content rest hfits
    rw [List.length_append] at hfits
    have hfits : (tlv t content).length ≤ maxLength := Nat.le_of_add_right_le hfits
    refine (Reader.reads_any _ (Nat.zero_le _) _ _).2 ⟨_, (isValue_iff hfits).2 rfl, ?_⟩
    exact ⟨rfl, (Nat.zero_add _).symm, hfits⟩
  have hsame := hread h
  rw [heq, hread (heq ▸ h)] at hsame
  simp only [Except.ok.injEq, Prod.mk.injEq, Cursor.mk.injEq] at hsame
  exact ⟨hsame.1.1.symm, hsame.1.2.symm, hsame.2.2.symm⟩

theorem tlv_inj {t t' : Tag} {content content' : Bytes} (h : (tlv t content).length ≤ maxLength)
    (heq : tlv t content = tlv t' content') : t = t' ∧ content = content' := by
  rw [← List.append_nil (tlv t content)] at h
  obtain ⟨htag, hcontent, -⟩ := tlv_append_inj h (congrArg (· ++ []) heq)
  exact ⟨htag, hcontent⟩

/-- Values one after another are told apart. -/
theorem tlvs_inj {vs ws : List (Tag × Bytes)} (h : (tlvs vs).length ≤ maxLength)
    (heq : tlvs vs = tlvs ws) : vs = ws := by
  have hne : ∀ (v : Tag × Bytes) vs, tlvs (v :: vs) ≠ [] := by
    intro v vs hnil
    rw [tlvs_cons, tlv, tlvOf] at hnil
    cases hnil
  induction vs generalizing ws with
  | nil =>
    cases ws with
    | nil => rfl
    | cons w ws => exact absurd heq.symm (hne w ws)
  | cons v vs ih =>
    cases ws with
    | nil => exact absurd heq (hne v vs)
    | cons w ws =>
      rw [tlvs_cons] at h heq
      obtain ⟨htag, hcontent, hrest⟩ := tlv_append_inj h heq
      rw [List.length_append] at h
      rw [ih (Nat.le_of_add_left_le h) hrest, Prod.ext htag hcontent]

end Der

end NodePki
