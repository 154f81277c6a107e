import Mathlib.Data.List.Basic
import Mathlib.Data.Nat.Digits.Defs
import NodePki.Config

/-!
# Numbers of the configuration

Which number a variable of the environment sets (`Config.Sets`): the one that its text writes in decimal
digits, after a plus sign or not, as far as 64 bits go, and the default otherwise. Every variable sets
one number (`Config.sets_iff`).
-/

namespace NodePki.Config

/-- The text writes a number of at most 64 bits in decimal, perhaps after a plus sign. -/
def Writes (text : String) (n : Nat) : Prop :=
  ∃ digits : List Nat, digits ≠ [] ∧ (∀ d ∈ digits, d < 10) ∧
    (text.toList = digits.map Nat.digitChar ∨ text.toList = '+' :: digits.map Nat.digitChar) ∧
    n = Nat.ofDigits 10 digits.reverse ∧ n < 2 ^ 64

/-- The number that a variable sets, by its text if it has one. -/
inductive Sets (default : Nat) : Option String → Nat → Prop
  | unset : Sets default none default
  | written {text : String} {n : Nat} (writes : Writes text n) : Sets default (some text) n
  | unreadable {text : String} (unreadable : ∀ n, ¬ Writes text n) : Sets default (some text) default

theorem isDigit_iff {c : Char} : c.isDigit ↔ 48 ≤ c.toNat ∧ c.toNat ≤ 57 := by
  simp only [Char.isDigit, Bool.and_eq_true, decide_eq_true_eq, ge_iff_le, UInt32.le_iff_toNat_le]
  exact Iff.rfl

/-- The characters of digits. -/
theorem all_isDigit_iff {cs : List Char} :
    cs.all Char.isDigit ↔ ∃ digits : List Nat, (∀ d ∈ digits, d < 10) ∧
      cs = digits.map Nat.digitChar := by
  rw [List.all_eq_true]
  constructor
  · intro h
    have hdigit : ∀ c ∈ cs, 48 ≤ c.toNat ∧ c.toNat ≤ 57 := fun c hc => isDigit_iff.1 (h c hc)
    refine ⟨cs.map fun c => c.toNat - 48, ?_, ?_⟩
    · rw [List.forall_mem_map]
      intro c hc
      have := hdigit c hc
      omega
    · rw [List.map_map]
      refine (List.map_id cs).symm.trans (List.map_congr_left fun c hc => ?_)
      have := hdigit c hc
      rw [id, Function.comp_apply, ← Char.toNat_inj, Nat.toNat_digitChar_of_lt_ten (by omega)]
      omega
  · rintro ⟨digits, hlt, rfl⟩
    rw [List.forall_mem_map]
    intro d hd
    rw [isDigit_iff, Nat.toNat_digitChar_of_lt_ten (hlt d hd)]
    have := hlt d hd
    omega

/-- What digits write, read from the left. -/
theorem foldl_digitChar {digits : List Nat} (h : ∀ d ∈ digits, d < 10) :
    (digits.map Nat.digitChar).foldl (fun n c => n * 10 + (c.toNat - 0x30)) 0 =
      Nat.ofDigits 10 digits.reverse := by
  rw [Nat.ofDigits_eq_foldr, List.foldr_reverse, List.foldl_map]
  refine List.foldl_ext _ _ _ fun n d hd => ?_
  rw [Nat.toNat_digitChar_of_lt_ten (h d hd)]
  rw [Nat.cast_id]
  omega

/-- The characters after a plus sign, if there is one. -/
def unsigned : List Char → List Char
  | '+' :: rest => rest
  | cs => cs

theorem unsigned_of_isDigit {cs : List Char} (h : cs.all Char.isDigit) : unsigned cs = cs := by
  unfold unsigned
  split
  · cases h
  · rfl

theorem unsigned_eq_iff {cs digits : List Char} (h : digits.all Char.isDigit) :
    unsigned cs = digits ↔ cs = digits ∨ cs = '+' :: digits := by
  constructor
  · rintro rfl
    unfold unsigned
    split
    · exact .inr rfl
    · exact .inl rfl
  · rintro (rfl | rfl)
    · exact unsigned_of_isDigit h
    · rfl

/-- A text is read as the number that it writes. -/
theorem number?_eq_some_iff {text : String} {n : Nat} : number? text = some n ↔ Writes text n := by
  have hnumber : number? text =
      if (unsigned text.toList).isEmpty || !(unsigned text.toList).all Char.isDigit then none
      else if (unsigned text.toList).foldl (fun n c => n * 10 + (c.toNat - 0x30)) 0 ≤ maxNumber then
        some ((unsigned text.toList).foldl (fun n c => n * 10 + (c.toNat - 0x30)) 0)
      else none := rfl
  have hmax : ∀ n, n ≤ maxNumber ↔ n < 2 ^ 64 := fun n => by simp only [maxNumber, UInt64.size]; omega
  rw [hnumber]
  constructor
  · intro h
    split at h
    · cases h
    next hdigits =>
    simp only [Bool.or_eq_true, List.isEmpty_iff, Bool.not_eq_true', not_or, Bool.not_eq_false] at hdigits
    split at h
    case isFalse => cases h
    next hle =>
    obtain ⟨digits, hlt, hcs⟩ := all_isDigit_iff.1 hdigits.2
    rw [hcs, foldl_digitChar hlt] at hle h
    refine ⟨digits, ?_, hlt, ?_, (Option.some.inj h).symm, (hmax n).1 (Option.some.inj h ▸ hle)⟩
    · rintro rfl
      exact hdigits.1 hcs
    · exact (unsigned_eq_iff (all_isDigit_iff.2 ⟨digits, hlt, rfl⟩)).1 hcs
  · rintro ⟨digits, hne, hlt, htext, rfl, hle⟩
    have hall : (digits.map Nat.digitChar).all Char.isDigit := all_isDigit_iff.2 ⟨digits, hlt, rfl⟩
    rw [(unsigned_eq_iff hall).2 htext, foldl_digitChar hlt, hall]
    simp [hne, (hmax _).2 hle]

/-- Every variable sets one number, and this is the one that is read. -/
theorem sets_iff {default n : Nat} {value : Option String} :
    Sets default value n ↔ (value.bind number?).getD default = n := by
  cases value with
  | none =>
    constructor
    · rintro ⟨⟩
      rfl
    · rintro rfl
      exact .unset
  | some text =>
    rw [Option.bind_some]
    cases hread : number? text with
    | none =>
      have hnone : ∀ n, ¬ Writes text n := fun n h => by
        rw [← number?_eq_some_iff, hread] at h
        cases h
      constructor
      · rintro (_ | ⟨writes⟩ | _)
        · exact absurd writes (hnone n)
        · rfl
      · rintro rfl
        exact .unreadable hnone
    | some m =>
      have hwrites := number?_eq_some_iff.1 hread
      constructor
      · rintro (_ | ⟨writes⟩ | ⟨unreadable⟩)
        · exact Option.some.inj (hread.symm.trans (number?_eq_some_iff.2 writes))
        · exact absurd hwrites (unreadable m)
      · rintro rfl
        exact .written hwrites

theorem existsUnique_sets (default : Nat) (value : Option String) : ∃! n, Sets default value n :=
  ⟨_, sets_iff.2 rfl, fun _ h => (sets_iff.1 h).symm⟩

theorem sets_nodeValidityDays (lookup : String → Option String) {n : Nat} :
    Sets 365 (lookup "NODE_CERT_VALIDITY_DAYS") n ↔ (ofEnvironment lookup).nodeValidityDays = n :=
  sets_iff

theorem sets_authorityValidityDays (lookup : String → Option String) {n : Nat} :
    Sets 3650 (lookup "CA_CERT_VALIDITY_DAYS") n ↔
      (ofEnvironment lookup).authorityValidityDays = n :=
  sets_iff

end NodePki.Config
