import Mathlib.Logic.Function.Basic
import NodePki.Proofs.Secret.LegalName
import NodePki.Text.Utf8.Lemmas

/-!
# The normal form of names

Whatever text a name is made of, the name is in normal form (`isNormal_sanitize`): not too long, of legal
characters only, without two dashes in a row, and with no dash or point at either end. No step takes back
what an earlier one did: what is cut off or trimmed leaves a piece of what was there, in which there is no
pair of dashes either.

The texts in normal form are those that are left as they are (`sanitize_eq_self_iff`), so to make a name
of a name changes nothing.

Names are as long as their octets, and a text that is cut off after a number of octets may be cut inside
a character (`Utf8.cut?`). Names are not, as their characters are clean when they are cut
(`sanitizeOctets?_eq_some`).
-/

namespace NodePki

/-! ### Cuts by octets -/

namespace Utf8

/-- A text cut off after a number of octets, or none if that is inside a character. -/
def cut? (limit : Nat) (text : String) : Option String := decode? ((encode text).take limit)

/-- Characters of ASCII have one octet each. -/
theorem flatMap_encodeChar_of_ascii {cs : List Char} (h : ∀ c ∈ cs, c.toNat < 0x80) :
    cs.flatMap encodeChar = cs.map fun c => UInt8.ofNat c.toNat := by
  induction cs with
  | nil => rfl
  | cons c cs ih =>
    rw [List.forall_mem_cons] at h
    have hchar : encodeChar c = [UInt8.ofNat c.toNat] := if_pos h.1
    rw [List.flatMap_cons, hchar, ih h.2]
    rfl

/-- A text of ASCII has as many octets as characters. -/
theorem length_encode_of_ascii {text : String} (h : ∀ c ∈ text.toList, c.toNat < 0x80) :
    (encode text).length = text.toList.length := by
  rw [encode, flatMap_encodeChar_of_ascii h, List.length_map]

/-- A text of ASCII is cut between two characters. -/
theorem cut?_of_ascii {cs : List Char} (h : ∀ c ∈ cs, c.toNat < 0x80) (limit : Nat) :
    cut? limit (String.ofList cs) = some (String.ofList (cs.take limit)) := by
  have htake : ∀ c ∈ cs.take limit, c.toNat < 0x80 := fun c hc => h c (List.mem_of_mem_take hc)
  rw [cut?, decode?_eq_some_iff, encode, encode, String.toList_ofList, String.toList_ofList,
    flatMap_encodeChar_of_ascii h, flatMap_encodeChar_of_ascii htake, List.map_take]

end Utf8

namespace SecretName

variable {cs : List Char} {c : Char}

theorem toNat_lt_of_clean (h : isSmallAlphanumeric c || c == '.' || c == '-') : c.toNat < 0x80 := by
  simp only [Bool.or_eq_true, isSmallAlphanumeric_iff, beq_iff_eq] at h
  rcases h with (h | rfl) | rfl
  · omega
  · decide
  · decide

/-! ### Pairs of dashes -/

/-- After a dash no other one is left. -/
theorem head?_collapse_ne_dash (cs : List Char) : (collapse true cs).head? ≠ some '-' := by
  induction cs with
  | nil => exact nofun
  | cons c cs ih =>
    rw [collapse]
    split
    · exact ih
    · next hc => exact fun hhead => hc (Option.some.inj hhead)

/-- One dash of each run is left. -/
theorem not_infix_collapse (afterDash : Bool) (cs : List Char) :
    ¬ ['-', '-'] <:+: collapse afterDash cs := by
  induction cs generalizing afterDash with
  | nil => simp [collapse]
  | cons c cs ih =>
    rw [collapse_cons]
    split
    · exact ih _
    · rw [List.singleton_append, List.infix_cons_iff, not_or]
      refine ⟨?_, ih _⟩
      -- a pair at the start would be `c` and the first of what is left after it
      rintro ⟨rest, hpair⟩
      obtain ⟨rfl, hnext⟩ := List.cons_eq_cons.1 hpair
      exact head?_collapse_ne_dash cs (congrArg List.head? hnext.symm)

/-! ### The form of names -/

/-- The form that names are in. It may be empty, and need not be legal, as points may stand side by
side. -/
structure IsNormal (name : String) : Prop where
  fits : (Utf8.encode name).length ≤ maxLength
  clean : ∀ c ∈ name.toList, isSmallAlphanumeric c || c == '.' || c == '-'
  single : ¬ ['-', '-'] <:+: name.toList
  first : ∀ c ∈ name.toList.head?, isEdge c = false
  last : ∀ c ∈ name.toList.getLast?, isEdge c = false

/-- The characters that a name is made of, before any of them is left out. -/
def cleaned (text : String) : List Char := text.toList.map cleanChar

/-- All names are in normal form. -/
theorem isNormal_sanitize (text : String) : IsNormal (sanitize text) := by
  have hchars : (sanitize text).toList = sanitizeChars text.toList := String.toList_ofList
  have clean : ∀ c ∈ (sanitize text).toList, isSmallAlphanumeric c || c == '.' || c == '-' :=
    fun c hc => clean_of_mem_sanitizeChars (hchars ▸ hc)
  have hpiece : sanitizeChars text.toList <:+: collapse false (cleaned text) :=
    (isInfix_trimEdges _).trans (List.take_prefix _ _).isInfix
  refine { fits := ?_, clean, single := ?_, first := ?_, last := ?_ }
  · rw [Utf8.length_encode_of_ascii fun c hc => toNat_lt_of_clean (clean c hc)]
    exact length_sanitize_le text
  · rw [hchars]
    exact fun hpair => not_infix_collapse false _ (hpair.trans hpiece)
  · rw [hchars]
    exact isEdge_head?_trimEdges _
  · rw [hchars]
    exact isEdge_getLast?_rdropWhile _

/-- A name in normal form is left as it is. -/
theorem IsNormal.sanitize_eq {name : String} (h : IsNormal name) : sanitize name = name := by
  have hmap : name.toList.map cleanChar = name.toList := map_cleanChar_of_clean h.clean
  have hcollapse : collapse false name.toList = name.toList := collapse_eq_self h.single nofun
  have hfits : name.toList.length ≤ maxLength := by
    rw [← Utf8.length_encode_of_ascii fun c hc => toNat_lt_of_clean (h.clean c hc)]
    exact h.fits
  rw [sanitize, sanitizeChars, hmap, hcollapse, List.take_of_length_le hfits,
    trimEdges_of_ends h.first h.last, String.ofList_toList]

/-- Just the texts in normal form are left as they are. -/
theorem sanitize_eq_self_iff {name : String} : sanitize name = name ↔ IsNormal name :=
  ⟨fun h => h ▸ isNormal_sanitize name, IsNormal.sanitize_eq⟩

/-! ### Cuts of names -/

/-- The name of a text, where what is too long is cut off by octets, or none if that is inside a
character. -/
def sanitizeOctets? (text : String) : Option String :=
  (Utf8.cut? maxLength (String.ofList (collapse false (cleaned text)))).map fun cut =>
    String.ofList (trimEdges cut.toList)

/-- No name is cut inside a character. -/
theorem sanitizeOctets?_eq_some (text : String) : sanitizeOctets? text = some (sanitize text) := by
  have hascii : ∀ c ∈ collapse false (cleaned text), c.toNat < 0x80 := by
    intro c hc
    obtain ⟨c, -, rfl⟩ := List.mem_map.1 ((collapse_sublist false _).mem hc)
    exact toNat_lt_of_clean (cleanChar_clean c)
  rw [sanitizeOctets?, Utf8.cut?_of_ascii hascii, Option.map_some, String.toList_ofList]
  rfl

/-- Names are in normal form, and what is in normal form is left as it is, a name that was made before
among it. What a name is depends on nothing but the cleaned characters, and no name is cut inside a
character. -/
theorem sanitize_normalForm (text : String) :
    IsNormal (sanitize text) ∧ (∀ name, sanitize name = name ↔ IsNormal name) ∧
      sanitize (sanitize text) = sanitize text ∧ Function.FactorsThrough sanitize cleaned ∧
      sanitizeOctets? text = some (sanitize text) := by
  have normal := isNormal_sanitize text
  refine ⟨normal, fun _ => sanitize_eq_self_iff, normal.sanitize_eq, ?_, sanitizeOctets?_eq_some text⟩
  intro s t hst
  rw [sanitize, sanitize, sanitizeChars, sanitizeChars]
  exact congrArg (fun cs => String.ofList (trimEdges ((collapse false cs).take maxLength))) hst

end SecretName

end NodePki
