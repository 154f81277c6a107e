import NodePki.Text.Utf8

/-!
# Reading and writing UTF-8

* `decode_eq_ok_iff`: reading accepts exactly what writing produces, so every text has one form
  and every form one text;
* `decodeFrom_encodeChar`: a character at the front is read back, whatever octets follow it.
-/

namespace NodePki.Utf8

/-! ## Numbers of characters and of octets -/

/-- The number of a character is no surrogate and at most `10ffff`. -/
theorem toNat_valid (c : Char) :
    c.toNat < 0xd800 ∨ 0xdfff < c.toNat ∧ c.toNat < 0x110000 := c.valid

theorem toNat_ofNat_small {n : Nat} (h : n < 256) : (UInt8.ofNat n).toNat = n := by
  rw [UInt8.toNat_ofNat', Nat.mod_eq_of_lt h]

/-- The number of a character made from it. -/
theorem toNat_charOfNat {n : Nat} (h : n < 0xd800 ∨ 0xdfff < n ∧ n < 0x110000) :
    (Char.ofNat n).toNat = n := by
  rw [Char.ofNat, dif_pos (show n.isValidChar from h)]
  rfl

theorem ofNat_eq_of_toNat {n : Nat} {a : UInt8} (h : n = a.toNat) : UInt8.ofNat n = a := by
  rw [h, UInt8.ofNat_toNat]

/-! ## What was written can be read -/

/-- The first octet of a character of two octets. -/
theorem lead?_two {n : Nat} (h : 0x80 ≤ n) (h' : n < 0x800) :
    lead? (0xc0 + n / 64) = some ⟨0, 0x80, 0xbf⟩ := by
  rw [lead?, if_neg (by omega), if_pos (by omega)]

/-- The first octet of a character of three octets announces a range that holds the second. -/
theorem lead?_three {n : Nat} (h : 0x800 ≤ n) (h' : n < 0x10000)
    (hv : n < 0xd800 ∨ 0xdfff < n) :
    ∃ low high, lead? (0xe0 + n / 4096) = some ⟨1, low, high⟩ ∧
      low ≤ 0x80 + n / 64 % 64 ∧ 0x80 + n / 64 % 64 ≤ high := by
  rw [lead?, if_neg (by omega), if_neg (by omega)]
  split
  · exact ⟨_, _, rfl, by omega, by omega⟩
  split
  · exact ⟨_, _, rfl, by omega, by omega⟩
  rw [if_pos (by omega)]
  exact ⟨_, _, rfl, by omega, by omega⟩

/-- The first octet of a character of four octets announces a range that holds the second. -/
theorem lead?_four {n : Nat} (h : 0x10000 ≤ n) (h' : n < 0x110000) :
    ∃ low high, lead? (0xf0 + n / 262144) = some ⟨2, low, high⟩ ∧
      low ≤ 0x80 + n / 4096 % 64 ∧ 0x80 + n / 4096 % 64 ≤ high := by
  rw [lead?, if_neg (by omega), if_neg (by omega), if_neg (by omega), if_neg (by omega),
    if_neg (by omega)]
  split
  · exact ⟨_, _, rfl, by omega, by omega⟩
  split
  · exact ⟨_, _, rfl, by omega, by omega⟩
  rw [if_pos (by omega)]
  exact ⟨_, _, rfl, by omega, by omega⟩

/-- A written character is read back, whatever follows it. -/
theorem decodeFrom_encodeChar (c : Char) (index : Nat) (rest : Bytes) :
    decodeFrom index (encodeChar c ++ rest) =
      (decodeFrom (index + (encodeChar c).length) rest).map (c :: ·) := by
  have hv := toNat_valid c
  have hc : Char.ofNat c.toNat = c := Char.ofNat_toNat c
  generalize hn : c.toNat = n at hv hc
  simp only [encodeChar, hn]
  by_cases h₁ : n < 0x80
  · rw [if_pos h₁, List.cons_append, List.nil_append, decodeFrom,
      toNat_ofNat_small (by omega), if_pos h₁, hc]
    rfl
  rw [if_neg h₁]
  by_cases h₂ : n < 0x800
  · have ha : (UInt8.ofNat (0xc0 + n / 64)).toNat = 0xc0 + n / 64 := toNat_ofNat_small (by omega)
    have hb : (UInt8.ofNat (0x80 + n % 64)).toNat = 0x80 + n % 64 := toNat_ofNat_small (by omega)
    have hchar : (0xc0 + n / 64) % 32 * 64 + (0x80 + n % 64) % 64 = n := by omega
    rw [if_pos h₂]
    simp only [List.cons_append, List.nil_append]
    rw [decodeFrom, ha, if_neg (by omega), lead?_two (by omega) h₂]
    simp only [payload, hb, hchar, hc, List.length_cons, List.length_nil]
    rw [if_neg (by omega)]
  rw [if_neg h₂]
  by_cases h₃ : n < 0x10000
  · have ha : (UInt8.ofNat (0xe0 + n / 4096)).toNat = 0xe0 + n / 4096 :=
      toNat_ofNat_small (by omega)
    have hb : (UInt8.ofNat (0x80 + n / 64 % 64)).toNat = 0x80 + n / 64 % 64 :=
      toNat_ofNat_small (by omega)
    have hd : (UInt8.ofNat (0x80 + n % 64)).toNat = 0x80 + n % 64 := toNat_ofNat_small (by omega)
    have hchar : ((0xe0 + n / 4096) % 16 * 64 + (0x80 + n / 64 % 64) % 64) * 64 +
        (0x80 + n % 64) % 64 = n := by omega
    obtain ⟨low, high, hl, hlow, hhigh⟩ := lead?_three (n := n) (by omega) h₃ (by omega)
    rw [if_pos h₃]
    simp only [List.cons_append, List.nil_append]
    rw [decodeFrom, ha, if_neg (by omega), hl]
    simp only [payload, hb, hd, hchar, hc, List.length_cons, List.length_nil, isContinuation]
    rw [if_neg (by omega), if_pos (by simp; omega)]
  · have ha : (UInt8.ofNat (0xf0 + n / 262144)).toNat = 0xf0 + n / 262144 :=
      toNat_ofNat_small (by omega)
    have hb : (UInt8.ofNat (0x80 + n / 4096 % 64)).toNat = 0x80 + n / 4096 % 64 :=
      toNat_ofNat_small (by omega)
    have hd : (UInt8.ofNat (0x80 + n / 64 % 64)).toNat = 0x80 + n / 64 % 64 :=
      toNat_ofNat_small (by omega)
    have he : (UInt8.ofNat (0x80 + n % 64)).toNat = 0x80 + n % 64 := toNat_ofNat_small (by omega)
    have hchar : (((0xf0 + n / 262144) % 8 * 64 + (0x80 + n / 4096 % 64) % 64) * 64 +
        (0x80 + n / 64 % 64) % 64) * 64 + (0x80 + n % 64) % 64 = n := by omega
    obtain ⟨low, high, hl, hlow, hhigh⟩ := lead?_four (n := n) (by omega) (by omega)
    rw [if_neg h₃]
    simp only [List.cons_append, List.nil_append]
    rw [decodeFrom, ha, if_neg (by omega), hl]
    simp only [payload, hb, hd, he, hchar, hc, List.length_cons, List.length_nil, isContinuation]
    rw [if_neg (by omega), if_pos (by simp; omega), if_pos (by simp; omega)]

theorem decodeFrom_flatMap (cs : List Char) (index : Nat) :
    decodeFrom index (cs.flatMap encodeChar) = .ok cs := by
  induction cs generalizing index with
  | nil => rfl
  | cons c cs ih => rw [List.flatMap_cons, decodeFrom_encodeChar, ih]; rfl

/-! ## What can be read was written -/

theorem encodeChar_one {a : UInt8} (h : a.toNat < 0x80) :
    encodeChar (Char.ofNat a.toNat) = [a] := by
  rw [encodeChar]
  simp only [toNat_charOfNat (n := a.toNat) (by omega)]
  rw [if_pos h, UInt8.ofNat_toNat]

/-- What an announcement says about the first two octets. -/
theorem lead?_eq_some {a : Nat} {lead : Lead} (h : lead? a = some lead) :
    lead.more = 0 ∧ 0xc2 ≤ a ∧ a < 0xe0 ∧ lead.low = 0x80 ∧ lead.high = 0xbf ∨
    lead.more = 1 ∧ 0xe0 ≤ a ∧ a < 0xf0 ∧ 0x80 ≤ lead.low ∧ lead.high ≤ 0xbf ∧
      (a = 0xe0 → 0xa0 ≤ lead.low) ∧ (a = 0xed → lead.high ≤ 0x9f) ∨
    lead.more = 2 ∧ 0xf0 ≤ a ∧ a < 0xf5 ∧ 0x80 ≤ lead.low ∧ lead.high ≤ 0xbf ∧
      (a = 0xf0 → 0x90 ≤ lead.low) ∧ (a = 0xf4 → lead.high ≤ 0x8f) := by
  rw [lead?] at h
  repeat' split at h
  all_goals simp only [reduceCtorEq, Option.some.injEq] at h
  all_goals subst h; simp; omega

theorem encodeChar_two {a b : UInt8} (ha : 0xc2 ≤ a.toNat) (ha' : a.toNat < 0xe0)
    (hb : 0x80 ≤ b.toNat) (hb' : b.toNat ≤ 0xbf) :
    encodeChar (Char.ofNat (a.toNat % 32 * 64 + payload b)) = [a, b] := by
  rw [payload, encodeChar]
  simp only [toNat_charOfNat (n := a.toNat % 32 * 64 + b.toNat % 64) (by omega)]
  rw [if_neg (by omega), if_pos (by omega), ofNat_eq_of_toNat (a := a) (by omega),
    ofNat_eq_of_toNat (a := b) (by omega)]

theorem encodeChar_three {a b c : UInt8} (ha : 0xe0 ≤ a.toNat) (ha' : a.toNat < 0xf0)
    (hb : 0x80 ≤ b.toNat) (hb' : b.toNat ≤ 0xbf) (hc : 0x80 ≤ c.toNat) (hc' : c.toNat ≤ 0xbf)
    (hlow : a.toNat = 0xe0 → 0xa0 ≤ b.toNat) (hhigh : a.toNat = 0xed → b.toNat ≤ 0x9f) :
    encodeChar (Char.ofNat ((a.toNat % 16 * 64 + payload b) * 64 + payload c)) = [a, b, c] := by
  rw [payload, payload, encodeChar]
  simp only [toNat_charOfNat (n := (a.toNat % 16 * 64 + b.toNat % 64) * 64 + c.toNat % 64)
    (by omega)]
  rw [if_neg (by omega), if_neg (by omega), if_pos (by omega),
    ofNat_eq_of_toNat (a := a) (by omega), ofNat_eq_of_toNat (a := b) (by omega),
    ofNat_eq_of_toNat (a := c) (by omega)]

theorem encodeChar_four {a b c d : UInt8} (ha : 0xf0 ≤ a.toNat) (ha' : a.toNat < 0xf5)
    (hb : 0x80 ≤ b.toNat) (hb' : b.toNat ≤ 0xbf) (hc : 0x80 ≤ c.toNat) (hc' : c.toNat ≤ 0xbf)
    (hd : 0x80 ≤ d.toNat) (hd' : d.toNat ≤ 0xbf)
    (hlow : a.toNat = 0xf0 → 0x90 ≤ b.toNat) (hhigh : a.toNat = 0xf4 → b.toNat ≤ 0x8f) :
    encodeChar (Char.ofNat
      (((a.toNat % 8 * 64 + payload b) * 64 + payload c) * 64 + payload d)) = [a, b, c, d] := by
  rw [payload, payload, payload, encodeChar]
  simp only [toNat_charOfNat
    (n := ((a.toNat % 8 * 64 + b.toNat % 64) * 64 + c.toNat % 64) * 64 + d.toNat % 64) (by omega)]
  rw [if_neg (by omega), if_neg (by omega), if_neg (by omega),
    ofNat_eq_of_toNat (a := a) (by omega), ofNat_eq_of_toNat (a := b) (by omega),
    ofNat_eq_of_toNat (a := c) (by omega), ofNat_eq_of_toNat (a := d) (by omega)]

theorem isContinuation_iff {b : UInt8} :
    isContinuation b = true ↔ 0x80 ≤ b.toNat ∧ b.toNat ≤ 0xbf := by
  simp [isContinuation]

theorem map_cons_eq_ok {r : Except Error (List Char)} {c : Char} {cs : List Char}
    (h : r.map (c :: ·) = .ok cs) : ∃ t, r = .ok t ∧ cs = c :: t := by
  cases r with
  | error e => cases h
  | ok t => exact ⟨t, rfl, (Except.ok.inj h).symm⟩

/-- Octets that could be read are those that the characters write: each character has one form. -/
theorem flatMap_of_decodeFrom {index : Nat} {bs : Bytes} {cs : List Char}
    (h : decodeFrom index bs = .ok cs) : cs.flatMap encodeChar = bs := by
  fun_induction decodeFrom index bs generalizing cs with
  | case1 => cases h; rfl
  | case2 index a r ha ih =>
    obtain ⟨t, ht, rfl⟩ := map_cons_eq_ok h
    rw [List.flatMap_cons, ih ht, encodeChar_one ha]
    rfl
  | case6 index a ha lead hl b hb r hm ih =>
    obtain ⟨t, ht, rfl⟩ := map_cons_eq_ok h
    have := lead?_eq_some hl
    rw [List.flatMap_cons, ih ht, encodeChar_two (by omega) (by omega) (by omega) (by omega)]
    rfl
  | case8 index a ha lead hl b hb c hc r hm ih =>
    obtain ⟨t, ht, rfl⟩ := map_cons_eq_ok h
    have := lead?_eq_some hl
    have hc := isContinuation_iff.1 hc
    rw [List.flatMap_cons, ih ht, encodeChar_three (by omega) (by omega) (by omega) (by omega)
      hc.1 hc.2 (by omega) (by omega)]
    rfl
  | case10 index a ha lead hl b hb c hc n d r hd hm ih =>
    obtain ⟨t, ht, rfl⟩ := map_cons_eq_ok h
    have := lead?_eq_some hl
    have hc := isContinuation_iff.1 hc
    have hd := isContinuation_iff.1 hd
    rw [List.flatMap_cons, ih ht, encodeChar_four (by omega) (by omega) (by omega) (by omega)
      hc.1 hc.2 hd.1 hd.2 (by omega) (by omega)]
    rfl
  | case3 | case4 | case5 | case7 | case9 | case11 | case12 => cases h

/-! ## Texts -/

/-- Reading accepts exactly what writing produces. -/
theorem decode_eq_ok_iff {bs : Bytes} {s : String} : decode bs = .ok s ↔ bs = encode s := by
  constructor
  · intro h
    rw [decode] at h
    cases hr : decodeFrom 0 bs with
    | error e => rw [hr] at h; cases h
    | ok cs =>
      rw [hr] at h
      cases h
      rw [encode, String.toList_ofList, flatMap_of_decodeFrom hr]
  · rintro rfl
    rw [decode, encode, decodeFrom_flatMap]
    exact congrArg Except.ok String.ofList_toList

@[simp] theorem decode_encode (s : String) : decode (encode s) = .ok s := decode_eq_ok_iff.2 rfl

@[simp] theorem decode?_encode (s : String) : decode? (encode s) = some s := by
  rw [decode?, decode_encode]
  rfl

theorem decode?_eq_some_iff {bs : Bytes} {s : String} : decode? bs = some s ↔ bs = encode s := by
  rw [← decode_eq_ok_iff, decode?]
  cases decode bs <;> simp [Except.toOption]

/-- A character takes four octets at most. -/
theorem length_encode_le (s : String) : (encode s).length ≤ 4 * s.toList.length := by
  rw [encode]
  induction s.toList with
  | nil => exact Nat.le_refl 0
  | cons c cs ih =>
    have hchar : (encodeChar c).length ≤ 4 := by
      rw [encodeChar]
      repeat' split
      all_goals simp
    rw [List.flatMap_cons, List.length_append, List.length_cons]
    omega

theorem encode_append (s t : String) : encode (s ++ t) = encode s ++ encode t := by
  simp [encode]

/-- Two texts that write the same octets are one text. -/
theorem encode_injective {s t : String} (h : encode s = encode t) : s = t :=
  Except.ok.inj (by rw [← decode_encode s, h, decode_encode])

end NodePki.Utf8
