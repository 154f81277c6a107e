import NodePki.Encoding.Base64
import NodePki.Text.Utf8.Lemmas

/-!
# Base64 read back

What is written in base64 is read back (`decodeChars_encodeChars`), and has only characters of the
alphabet (`isSymbol_of_mem_encodeChars`), so that neither the dashes of a marker nor a blank stand in
it.
-/

namespace NodePki.Base64

/-- The characters that base64 is written with. -/
def IsSymbol (c : Char) : Prop := c = '=' ∨ ∃ n < 64, c = symbol n

theorem isSymbol_symbol {n : Nat} (h : n < 64) : IsSymbol (symbol n) := .inr ⟨n, h, rfl⟩

theorem isSymbol_pad : IsSymbol '=' := .inl rfl

/-- What holds of the padding and of each character of the alphabet. -/
theorem IsSymbol.of_all {p : Char → Bool} {c : Char} (h : IsSymbol c)
    (hp : p '=' ∧ ∀ n < 64, p (symbol n)) : p c := by
  rcases h with rfl | ⟨n, hn, rfl⟩
  · exact hp.1
  · exact hp.2 n hn

theorem value?_symbol {n : Nat} (h : n < 64) : value? (symbol n) = some n := by
  revert n
  decide

theorem symbol_ne_pad {n : Nat} (h : n < 64) : symbol n ≠ '=' := by
  revert n
  decide

/-! ## One group -/

section Symbols

variable {n₁ n₂ n₃ n₄ : Nat} (h₁ : n₁ < 64) (h₂ : n₂ < 64)

include h₁ h₂

theorem group?_one (h : n₂ % 16 = 0) :
    group? (symbol n₁) (symbol n₂) '=' '=' = some [UInt8.ofNat (n₁ * 4 + n₂ / 16)] := by
  simp [group?, value?_symbol, h₁, h₂, h]

theorem group?_two (h₃ : n₃ < 64) (h : n₃ % 4 = 0) :
    group? (symbol n₁) (symbol n₂) (symbol n₃) '=' =
      some [UInt8.ofNat (n₁ * 4 + n₂ / 16), UInt8.ofNat (n₂ % 16 * 16 + n₃ / 4)] := by
  simp [group?, value?_symbol, symbol_ne_pad, h₁, h₂, h₃, h]

theorem group?_three (h₃ : n₃ < 64) (h₄ : n₄ < 64) :
    group? (symbol n₁) (symbol n₂) (symbol n₃) (symbol n₄) =
      some [UInt8.ofNat (n₁ * 4 + n₂ / 16), UInt8.ofNat (n₂ % 16 * 16 + n₃ / 4),
        UInt8.ofNat (n₃ % 4 * 64 + n₄)] := by
  simp [group?, value?_symbol, symbol_ne_pad, h₁, h₂, h₃, h₄]

end Symbols

section Octets

variable (a b c : UInt8)

/-- One octet is read back from its group. -/
theorem group?_octet :
    group? (symbol (a.toNat * 16 / 64)) (symbol (a.toNat * 16 % 64)) '=' '=' = some [a] := by
  have ha := a.toNat_lt
  rw [group?_one (by omega) (by omega) (by omega), Option.some.injEq, List.cons.injEq]
  exact ⟨Utf8.ofNat_eq_of_toNat (by omega), rfl⟩

/-- Two octets are read back from their group. -/
theorem group?_octets₂ :
    let n := (a.toNat * 256 + b.toNat) * 4
    group? (symbol (n / 4096)) (symbol (n / 64 % 64)) (symbol (n % 64)) '=' = some [a, b] := by
  have ha := a.toNat_lt
  have hb := b.toNat_lt
  dsimp only
  rw [group?_two (by omega) (by omega) (by omega) (by omega)]
  simp only [Option.some.injEq, List.cons.injEq, and_true]
  exact ⟨Utf8.ofNat_eq_of_toNat (by omega), Utf8.ofNat_eq_of_toNat (by omega)⟩

/-- Three octets are read back from their group. -/
theorem group?_octets₃ :
    let n := (a.toNat * 256 + b.toNat) * 256 + c.toNat
    group? (symbol (n / 262144)) (symbol (n / 4096 % 64)) (symbol (n / 64 % 64)) (symbol (n % 64)) =
      some [a, b, c] := by
  have ha := a.toNat_lt
  have hb := b.toNat_lt
  have hc := c.toNat_lt
  dsimp only
  rw [group?_three (by omega) (by omega) (by omega) (by omega)]
  simp only [Option.some.injEq, List.cons.injEq, and_true]
  exact ⟨Utf8.ofNat_eq_of_toNat (by omega), Utf8.ofNat_eq_of_toNat (by omega),
    Utf8.ofNat_eq_of_toNat (by omega)⟩

end Octets

/-! ## Whole texts -/

theorem isSymbol_of_mem_encodeChars {bs : Bytes} : ∀ c ∈ encodeChars bs, IsSymbol c := by
  have hsymbol : ∀ n, IsSymbol (symbol (n % 64)) := fun n =>
    isSymbol_symbol (Nat.mod_lt n (by decide))
  induction bs using encodeChars.induct with
  | case1 => simp [encodeChars]
  | case2 a =>
    have := a.toNat_lt
    simp only [encodeChars, List.forall_mem_cons]
    exact ⟨isSymbol_symbol (by omega), hsymbol _, isSymbol_pad, isSymbol_pad, by simp⟩
  | case3 a b =>
    have := a.toNat_lt
    have := b.toNat_lt
    simp only [encodeChars, List.forall_mem_cons]
    exact ⟨isSymbol_symbol (by omega), hsymbol _, hsymbol _, isSymbol_pad, by simp⟩
  | case4 a b c rest ih =>
    have := a.toNat_lt
    have := b.toNat_lt
    have := c.toNat_lt
    simp only [encodeChars, List.forall_mem_cons]
    exact ⟨isSymbol_symbol (by omega), hsymbol _, hsymbol _, hsymbol _, ih⟩

theorem encodeChars_eq_nil_iff {bs : Bytes} : encodeChars bs = [] ↔ bs = [] := by
  cases bs using encodeChars.fun_cases <;> simp [encodeChars]

/-- Written octets are read back. -/
theorem decodeChars_encodeChars (bs : Bytes) : decodeChars (encodeChars bs) = some bs := by
  induction bs using encodeChars.induct with
  | case1 => rfl
  | case2 a => rw [encodeChars, decodeChars, group?_octet]; rfl
  | case3 a b => rw [encodeChars, decodeChars, group?_octets₂]; rfl
  | case4 a b c rest ih =>
    have hpad : symbol (((a.toNat * 256 + b.toNat) * 256 + c.toNat) % 64) ≠ '=' :=
      symbol_ne_pad (Nat.mod_lt _ (by decide))
    rw [encodeChars, decodeChars, group?_octets₃, Option.bind_eq_bind, Option.bind_some, ih]
    by_cases hrest : rest = []
    · subst hrest
      rfl
    · rw [if_neg (by rwa [List.isEmpty_iff, encodeChars_eq_nil_iff]), if_neg hpad]
      rfl

/-- What is read as one base64 text is read in the same way as several. -/
theorem decodeGroups_of_decodeChars {cs : List Char} {bs : Bytes} (h : decodeChars cs = some bs) :
    decodeGroups cs = some bs := by
  induction cs using decodeChars.induct generalizing bs with
  | case1 => exact h
  | case2 a b c d rest ih =>
    rw [decodeChars] at h
    rw [decodeGroups]
    obtain ⟨group, hgroup, h⟩ := Option.bind_eq_some_iff.1 h
    rw [hgroup]
    split at h
    · next hrest =>
      rw [List.isEmpty_iff.1 hrest, ← Option.some.inj h]
      simp [decodeGroups]
    · split at h
      · cases h
      · obtain ⟨more, hmore, h⟩ := Option.bind_eq_some_iff.1 h
        rw [ih hmore]
        exact h
  | case3 cs h₁ h₂ => simp [decodeChars] at h

end NodePki.Base64
