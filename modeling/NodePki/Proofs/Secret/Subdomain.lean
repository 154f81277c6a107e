import Mathlib.Data.List.Chain
import NodePki.Proofs.Text.Split
import NodePki.Secret.Name

/-!
# Legal names

The texts that a cluster accepts as the name of an object (`isSubdomain`): labels of a domain, with
points between them. They are told without cutting at the points (`isSubdomain_iff`): by their length,
by the characters they have and have at their ends (`Legal`), and by what is beside a point
(`Spaced`).
-/

namespace NodePki.SecretName

/-- Small letters and digits of ASCII. -/
def isSmallAlphanumeric (c : Char) : Bool := c.isLower || c.isDigit

/-- A label of a domain: small letters, digits and dashes, with no dash at either end. -/
def isDomainLabel (cs : List Char) : Bool :=
  cs.head?.any isSmallAlphanumeric && cs.getLast?.any isSmallAlphanumeric &&
    cs.all fun c => isSmallAlphanumeric c || c == '-'

/-- The name of an object: labels of a domain with points between them. -/
def isSubdomain (text : String) : Bool :=
  text.toList.length ≤ maxLength && (Text.splitOn '.' text.toList).all isDomainLabel

/-- Legal characters, with a letter or digit at either end. -/
structure Legal (cs : List Char) : Prop where
  first : ∃ c rest, cs = c :: rest ∧ isSmallAlphanumeric c
  last : ∃ init c, cs = init ++ [c] ∧ isSmallAlphanumeric c
  clean : ∀ c ∈ cs, isSmallAlphanumeric c || c == '.' || c == '-'

/-- A point has neither a point nor a dash beside it. -/
def Spaced (cs : List Char) : Prop :=
  cs.IsChain fun a b => isEdge a → isEdge b → a = '-' ∧ b = '-'

instance (cs : List Char) : Decidable (Spaced cs) :=
  inferInstanceAs (Decidable (List.IsChain _ cs))

variable {cs xs ys : List Char} {c : Char}

theorem isSmallAlphanumeric_iff : isSmallAlphanumeric c ↔
    (97 ≤ c.toNat ∧ c.toNat ≤ 122) ∨ (48 ≤ c.toNat ∧ c.toNat ≤ 57) := by
  have hlower : c.isLower = (decide ('a'.val ≤ c.val) && decide (c.val ≤ 'z'.val)) := rfl
  have hdigit : c.isDigit = (decide ('0'.val ≤ c.val) && decide (c.val ≤ '9'.val)) := rfl
  simp only [isSmallAlphanumeric, hlower, hdigit, Bool.or_eq_true, Bool.and_eq_true,
    decide_eq_true_eq, UInt32.le_iff_toNat_le]
  exact Iff.rfl

theorem isEdge_of_isSmallAlphanumeric (h : isSmallAlphanumeric c) : isEdge c = false := by
  rw [isSmallAlphanumeric_iff] at h
  simp only [isEdge, Bool.or_eq_false_iff, beq_eq_false_iff_ne]
  constructor
  all_goals
    rintro rfl
    revert h
    decide

/-- A legal character is a letter or digit unless it can stand at no end. -/
theorem isSmallAlphanumeric_of_clean (h : isSmallAlphanumeric c || c == '.' || c == '-')
    (hedge : isEdge c = false) : isSmallAlphanumeric c := by
  simp only [isEdge, Bool.or_eq_false_iff] at hedge
  simpa [hedge.1, hedge.2] using h

theorem ne_dash_of_isSmallAlphanumeric (h : isSmallAlphanumeric c) : c ≠ '-' := by
  rintro rfl
  cases h

theorem point_not_mem_of_isDomainLabel (h : isDomainLabel cs) : '.' ∉ cs := by
  simp only [isDomainLabel, Bool.and_eq_true, List.all_eq_true] at h
  exact fun hpoint => nomatch h.2 '.' hpoint

theorem spaced_cons_cons_iff {d : Char} : Spaced (c :: d :: cs) ↔
    (isEdge c → isEdge d → c = '-' ∧ d = '-') ∧ Spaced (d :: cs) := List.isChain_cons_cons

theorem Spaced.of_isInfix (h : Spaced ys) (hsub : xs <:+: ys) : Spaced xs := List.IsChain.infix h hsub

/-- Without points all is spaced. -/
theorem spaced_of_not_mem (h : '.' ∉ cs) : Spaced cs := by
  have hdash : ∀ c ∈ cs, isEdge c → c = '-' := by
    intro c hc hedge
    simp only [isEdge, Bool.or_eq_true, beq_iff_eq] at hedge
    exact hedge.resolve_right fun hpoint => h (hpoint ▸ hc)
  refine List.isChain_iff_forall_rel_of_append_cons_cons.2 fun a b before after heq hedge hedge' => ?_
  exact ⟨hdash a (by simp [heq]) hedge, hdash b (by simp [heq]) hedge'⟩

/-- What is on either side of a point is spaced, and has no edge at the point. -/
theorem spaced_append_iff : Spaced (xs ++ '.' :: ys) ↔
    (Spaced xs ∧ ∀ c ∈ xs.getLast?, isEdge c = false) ∧
      Spaced ys ∧ ∀ c ∈ ys.head?, isEdge c = false := by
  have hpoint : isEdge '.' := by decide
  have hne : '.' ≠ '-' := by decide
  simp only [Spaced, List.isChain_append, List.isChain_cons, List.head?_cons, Option.mem_some_iff,
    forall_eq', hpoint, hne, and_false, false_and, imp_false, not_true_eq_false, forall_const,
    Bool.not_eq_true]
  constructor
  · rintro ⟨hxs, ⟨hfirst, hys⟩, hlast⟩
    exact ⟨⟨hxs, hlast⟩, hys, hfirst⟩
  · rintro ⟨⟨hxs, hlast⟩, hys, hfirst⟩
    exact ⟨hxs, ⟨hfirst, hys⟩, hlast⟩

/-- A label is what is legal without points. -/
theorem isDomainLabel_iff (h : '.' ∉ cs) : isDomainLabel cs ↔ Legal cs := by
  simp only [isDomainLabel, Bool.and_eq_true, List.all_eq_true]
  constructor
  · rintro ⟨⟨hfirst, hlast⟩, hclean⟩
    refine ⟨?_, ?_, fun c hc => ?_⟩
    · obtain ⟨c, hc, hsmall⟩ := (Option.any_eq_true ..).1 hfirst
      obtain ⟨rest, rfl⟩ := List.head?_eq_some_iff.1 hc
      exact ⟨c, rest, rfl, hsmall⟩
    · obtain ⟨c, hc, hsmall⟩ := (Option.any_eq_true ..).1 hlast
      obtain ⟨init, rfl⟩ := List.getLast?_eq_some_iff.1 hc
      exact ⟨init, c, rfl, hsmall⟩
    · have := hclean c hc
      grind
  · rintro ⟨⟨c, rest, hfirst, hc⟩, ⟨init, c', hlast, hc'⟩, hclean⟩
    refine ⟨⟨?_, ?_⟩, fun c hmem => ?_⟩
    · simp [hfirst, hc]
    · simp [hlast, hc']
    · have hne : c ≠ '.' := fun hpoint => h (hpoint ▸ hmem)
      simpa [hne] using hclean c hmem

/-- Legal are texts with characters that are, of which those at the ends are no edges. -/
theorem legal_iff : Legal cs ↔
    (cs ≠ [] ∧ ∀ c ∈ cs, isSmallAlphanumeric c || c == '.' || c == '-') ∧
      (∀ c ∈ cs.head?, isEdge c = false) ∧ ∀ c ∈ cs.getLast?, isEdge c = false := by
  constructor
  · rintro ⟨⟨c, rest, hfirst, hc⟩, ⟨init, c', hlast, hc'⟩, hclean⟩
    refine ⟨⟨by simp [hfirst], hclean⟩, ?_, ?_⟩
    · simpa [hfirst] using isEdge_of_isSmallAlphanumeric hc
    · simpa [hlast] using isEdge_of_isSmallAlphanumeric hc'
  · rintro ⟨⟨hne, hclean⟩, hfirst, hlast⟩
    refine ⟨?_, ?_, hclean⟩
    · obtain ⟨c, rest, rfl⟩ := List.exists_cons_of_ne_nil hne
      exact ⟨c, rest, rfl,
        isSmallAlphanumeric_of_clean (hclean c List.mem_cons_self) (hfirst c rfl)⟩
    · obtain ⟨init, c, rfl⟩ := (List.eq_nil_or_concat' cs).resolve_left hne
      exact ⟨init, c, rfl,
        isSmallAlphanumeric_of_clean (hclean c (by simp)) (hlast c (by simp))⟩

/-- A spaced text is legal exactly if it is on either side of a point. -/
theorem legal_append_iff (h : Spaced (xs ++ '.' :: ys)) :
    Legal (xs ++ '.' :: ys) ↔ Legal xs ∧ Legal ys := by
  obtain ⟨⟨-, hlast⟩, -, hfirst⟩ := spaced_append_iff.1 h
  have hpoint : isEdge '.' := by decide
  have hhead : xs ≠ [] → (xs ++ '.' :: ys).head? = xs.head? :=
    List.head?_append_of_ne_nil xs
  have hend : ys ≠ [] → (xs ++ '.' :: ys).getLast? = ys.getLast? := fun hne => by
    rw [List.getLast?_append_of_ne_nil xs (List.cons_ne_nil _ _), List.getLast?_cons_of_ne_nil hne]
  simp only [legal_iff, List.forall_mem_append, List.forall_mem_cons]
  constructor
  · rintro ⟨⟨-, hxs, -, hys⟩, hhead', hend'⟩
    have hne : xs ≠ [] := by
      rintro rfl
      simp [hpoint] at hhead'
    have hne' : ys ≠ [] := by
      rintro rfl
      simp [hpoint] at hend'
    rw [hhead hne] at hhead'
    rw [hend hne'] at hend'
    exact ⟨⟨⟨hne, hxs⟩, hhead', hlast⟩, ⟨hne', hys⟩, hfirst, hend'⟩
  · rintro ⟨⟨⟨hne, hxs⟩, hhead', -⟩, ⟨hne', hys⟩, -, hend'⟩
    rw [hhead hne, hend hne']
    exact ⟨⟨by simp, hxs, rfl, hys⟩, hhead', hend'⟩

/-- Pieces without points are labels of a domain exactly if they are legal and spaced together. -/
theorem forall_isDomainLabel_iff {pieces : List (List Char)} (hne : pieces ≠ [])
    (hpoint : ∀ piece ∈ pieces, '.' ∉ piece) :
    (∀ piece ∈ pieces, isDomainLabel piece) ↔
      Legal (['.'].intercalate pieces) ∧ Spaced (['.'].intercalate pieces) := by
  induction pieces with
  | nil => exact absurd rfl hne
  | cons piece pieces ih =>
    rw [List.forall_mem_cons] at hpoint ⊢
    rw [isDomainLabel_iff hpoint.1]
    cases pieces with
    | nil => simp [spaced_of_not_mem hpoint.1]
    | cons piece' pieces =>
      rw [List.intercalate_cons_cons, List.append_assoc, ih (List.cons_ne_nil _ _) hpoint.2]
      show _ ↔ Legal (piece ++ '.' :: ['.'].intercalate (piece' :: pieces)) ∧
        Spaced (piece ++ '.' :: ['.'].intercalate (piece' :: pieces))
      generalize ['.'].intercalate (piece' :: pieces) = rest
      constructor
      · rintro ⟨hpiece, hrest, hspaced⟩
        have hspaced : Spaced (piece ++ '.' :: rest) := spaced_append_iff.2
          ⟨⟨spaced_of_not_mem hpoint.1, (legal_iff.1 hpiece).2.2⟩, hspaced, (legal_iff.1 hrest).2.1⟩
        exact ⟨(legal_append_iff hspaced).2 ⟨hpiece, hrest⟩, hspaced⟩
      · rintro ⟨hlegal, hspaced⟩
        obtain ⟨hpiece, hrest⟩ := (legal_append_iff hspaced).1 hlegal
        exact ⟨hpiece, hrest, (spaced_append_iff.1 hspaced).2.1⟩

/-- The names of objects are the legal spaced texts that are not too long. -/
theorem isSubdomain_iff {text : String} :
    isSubdomain text ↔ text.toList.length ≤ maxLength ∧ Legal text.toList ∧ Spaced text.toList := by
  rw [isSubdomain, Bool.and_eq_true, decide_eq_true_eq, List.all_eq_true,
    forall_isDomainLabel_iff (Text.splitOn_ne_nil _ _) fun _ => Text.not_mem_of_mem_splitOn,
    Text.intercalate_splitOn]

theorem legal_of_isSubdomain {text : String} (h : isSubdomain text) : Legal text.toList :=
  (isSubdomain_iff.1 h).2.1

end NodePki.SecretName
