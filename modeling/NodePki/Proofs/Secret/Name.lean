import Mathlib.Data.List.DropRight
import NodePki.Proofs.Secret.Subdomain

/-!
# Names of pods, clusters and their secrets

A capital letter is written small (`toNat_cleanChar_of_capital`), and what has no place in a name as a
dash (`cleanChar_of_other`). Of the name of a pod every character is kept in the name of its secret
(`Legal.map_cleanChar`), a run of dashes is written as one, and nothing is cut off unless the whole
is too long (`node_eq`). So names of pods that differ in their runs of dashes are written the same,
and others are not (`node_eq_node_iff`).

The name of a cluster is the value of a label. Of such a text more is lost: the case of letters, and
underscores, which become dashes (`authority_eq_authority_iff`).
-/

namespace NodePki

namespace SecretName

/-- A capital letter becomes the small one. -/
theorem toNat_cleanChar_of_capital {c : Char} (h : 65 ≤ c.toNat ∧ c.toNat ≤ 90) :
    (cleanChar c).toNat = c.toNat + 32 := by
  have hcapitals : ∀ n < 91, 65 ≤ n → (cleanChar (Char.ofNat n)).toNat = n + 32 := by decide
  have hc := hcapitals c.toNat (Nat.lt_succ_of_le h.2) h.1
  rwa [Char.ofNat_toNat] at hc

/-- Of all others, just those that can stand in a name are left as they are. -/
theorem cleanChar_of_not_capital {c : Char} (h : ¬ (65 ≤ c.toNat ∧ c.toNat ≤ 90)) :
    cleanChar c = if isSmallAlphanumeric c || c == '.' || c == '-' then c else '-' := by
  have hlower : c.toLower = c := by
    refine dif_neg fun hupper => h ?_
    exact ⟨UInt32.le_iff_toNat_le.1 hupper.1, UInt32.le_iff_toNat_le.1 hupper.2⟩
  simp only [cleanChar, hlower]
  rfl

/-- What is neither a letter, a digit, a point nor a dash becomes a dash. -/
theorem cleanChar_of_other {c : Char} (hcapital : ¬ (65 ≤ c.toNat ∧ c.toNat ≤ 90))
    (h : ¬ (isSmallAlphanumeric c || c == '.' || c == '-')) : cleanChar c = '-' :=
  (cleanChar_of_not_capital hcapital).trans (if_neg h)

/-- A legal character is left as it is. -/
theorem cleanChar_of_clean {c : Char} (h : isSmallAlphanumeric c || c == '.' || c == '-') :
    cleanChar c = c := by
  refine (cleanChar_of_not_capital ?_).trans (if_pos h)
  simp only [Bool.or_eq_true, isSmallAlphanumeric_iff, beq_iff_eq] at h
  rcases h with (h | rfl) | rfl
  · omega
  · decide
  · decide

theorem map_cleanChar_of_clean {cs : List Char}
    (h : ∀ c ∈ cs, isSmallAlphanumeric c || c == '.' || c == '-') : cs.map cleanChar = cs :=
  (List.map_congr_left fun c hc => cleanChar_of_clean (h c hc)).trans (List.map_id cs)

theorem Legal.map_cleanChar {cs : List Char} (h : Legal cs) : cs.map cleanChar = cs :=
  map_cleanChar_of_clean h.clean

/-- Whatever a character is cleaned to can stand in a name. -/
theorem cleanChar_clean (c : Char) :
    isSmallAlphanumeric (cleanChar c) || cleanChar c == '.' || cleanChar c == '-' := by
  by_cases hcapital : 65 ≤ c.toNat ∧ c.toNat ≤ 90
  · have hsmall : isSmallAlphanumeric (cleanChar c) := by
      rw [isSmallAlphanumeric_iff, toNat_cleanChar_of_capital hcapital]
      omega
    simp [hsmall]
  · by_cases hclean : isSmallAlphanumeric c || c == '.' || c == '-'
    · rwa [cleanChar_of_clean hclean]
    · rw [cleanChar_of_other hcapital hclean]
      rfl

/-- Whether the next character comes after a dash. -/
def endsInDash (afterDash : Bool) (cs : List Char) : Bool :=
  cs.foldl (fun _ c => c = '-') afterDash

theorem collapse_append (afterDash : Bool) (xs ys : List Char) :
    collapse afterDash (xs ++ ys) =
      collapse afterDash xs ++ collapse (endsInDash afterDash xs) ys := by
  induction xs generalizing afterDash with
  | nil => rfl
  | cons c xs ih =>
    by_cases hc : c = '-' <;> cases afterDash <;> simp [collapse, endsInDash, hc, ih]

theorem collapse_cons (afterDash : Bool) (c : Char) (cs : List Char) :
    collapse afterDash (c :: cs) =
      (if c = '-' ∧ afterDash then [] else [c]) ++ collapse (c = '-') cs := by
  by_cases hc : c = '-' <;> cases afterDash <;> simp [collapse, hc]

theorem collapse_sublist (afterDash : Bool) (cs : List Char) : (collapse afterDash cs).Sublist cs := by
  induction cs generalizing afterDash with
  | nil => exact .slnil
  | cons c cs ih =>
    rw [collapse_cons]
    split
    · exact (ih _).cons c
    · exact (ih _).cons_cons c

theorem length_collapse_le (afterDash : Bool) (cs : List Char) :
    (collapse afterDash cs).length ≤ cs.length :=
  (collapse_sublist afterDash cs).length_le

theorem trimEdges_eq_rdropWhile (cs : List Char) :
    trimEdges cs = (cs.dropWhile isEdge).rdropWhile isEdge := rfl

theorem isInfix_trimEdges (cs : List Char) : trimEdges cs <:+: cs :=
  (List.rdropWhile_prefix isEdge _).isInfix.trans (List.dropWhile_suffix isEdge).isInfix

theorem length_trimEdges_le (cs : List Char) : (trimEdges cs).length ≤ cs.length :=
  (isInfix_trimEdges cs).length_le

/-- No name is longer than a name may be. -/
theorem length_sanitize_le (text : String) : (sanitize text).toList.length ≤ maxLength := by
  rw [sanitize, String.toList_ofList, sanitizeChars]
  exact Nat.le_trans (length_trimEdges_le _) (List.length_take_le _ _)

theorem trimEdges_eq_self {cs : List Char} (hfirst : ∃ c rest, cs = c :: rest ∧ isEdge c = false)
    (hlast : ∃ init c, cs = init ++ [c] ∧ isEdge c = false) : trimEdges cs = cs := by
  obtain ⟨c, rest, hcs, hc⟩ := hfirst
  have hdrop : cs.dropWhile isEdge = cs := by simp [hcs, hc]
  obtain ⟨init, c', hcs', hc'⟩ := hlast
  rw [trimEdges, hdrop, hcs']
  simp [hc']

theorem Legal.endsInDash_eq {cs : List Char} (h : Legal cs) (afterDash : Bool) :
    endsInDash afterDash cs = false := by
  obtain ⟨init, c, rfl, hc⟩ := h.last
  simp [endsInDash, ne_dash_of_isSmallAlphanumeric hc]

/-- In a name that fits, the runs of dashes of a part that has a letter or digit at either end are
collapsed apart from those after it, and nothing is cut off. -/
theorem sanitizeChars_append {part rest : List Char} (hpart : Legal (part.map cleanChar))
    (hrest : ∃ init c, collapse false (rest.map cleanChar) = init ++ [c] ∧ isEdge c = false)
    (hfits : part.length + rest.length ≤ maxLength) :
    sanitizeChars (part ++ rest) =
      collapse false (part.map cleanChar) ++ collapse false (rest.map cleanChar) := by
  have hcollapse : collapse false ((part ++ rest).map cleanChar) =
      collapse false (part.map cleanChar) ++ collapse false (rest.map cleanChar) := by
    rw [List.map_append, collapse_append, hpart.endsInDash_eq]
  have hlength : (collapse false ((part ++ rest).map cleanChar)).length ≤ maxLength := by
    refine Nat.le_trans (length_collapse_le _ _) ?_
    rwa [List.length_map, List.length_append]
  rw [sanitizeChars, List.take_of_length_le hlength, hcollapse, trimEdges_eq_self]
  · obtain ⟨c, cs, hcs, hc⟩ := hpart.first
    rw [hcs, collapse, if_neg (ne_dash_of_isSmallAlphanumeric hc)]
    exact ⟨c, _, rfl, isEdge_of_isSmallAlphanumeric hc⟩
  · obtain ⟨init, c, hlast, hc⟩ := hrest
    exact ⟨_, c, by rw [hlast, ← List.append_assoc], hc⟩

/-- The characters after the pod in the name of a node's secret. -/
def nodeEnd (certificateType : String) : List Char :=
  '-' :: certificateType.toList.map cleanChar ++ ['-', 'c', 'e', 'r', 't', 's']

/-- The name of a node's secret is that of its pod with single dashes, and what comes after it. -/
theorem node_eq {podName certificateType : String} (hpod : Legal podName.toList)
    (hfits : podName.toList.length + (nodeEnd certificateType).length ≤ maxLength) :
    node podName certificateType = String.ofList
      (collapse false podName.toList ++ collapse false (nodeEnd certificateType)) := by
  have hparts : (podName ++ "-" ++ certificateType ++ "-certs").toList =
      podName.toList ++ ("-" ++ certificateType ++ "-certs").toList := by
    simp only [String.toList_append, List.append_assoc]
  have hend : ("-" ++ certificateType ++ "-certs").toList.map cleanChar =
      nodeEnd certificateType := by
    simp only [String.toList_append, List.map_append]
    rfl
  have hlength : ("-" ++ certificateType ++ "-certs").toList.length =
      (nodeEnd certificateType).length := by rw [← hend, List.length_map]
  have hlast : ∃ init c, collapse false (nodeEnd certificateType) = init ++ [c] ∧
      isEdge c = false := by
    have hsplit : nodeEnd certificateType =
        ('-' :: certificateType.toList.map cleanChar ++ ['-', 'c', 'e', 'r', 't']) ++ ['s'] := by
      simp [nodeEnd]
    rw [hsplit, collapse_append]
    exact ⟨_, 's', rfl, rfl⟩
  rw [node, sanitize, hparts, sanitizeChars_append, hend, hpod.map_cleanChar]
  · rwa [hpod.map_cleanChar]
  · rwa [hend]
  · rwa [hlength]

theorem length_nodeEnd (certificateType : String) :
    (nodeEnd certificateType).length = certificateType.toList.length + 7 := by
  simp [nodeEnd]

theorem length_le_of_isLabelValue {text : String} (h : isLabelValue text) :
    text.toList.length ≤ maxLabelValue := by
  simp only [isLabelValue, Bool.and_eq_true, decide_eq_true_eq] at h
  exact h.1.1.1

/-- A type that is not refused can be the value of a label. -/
theorem isLabelValue_of_checkType {certificateType : String}
    (h : checkType certificateType = .ok ()) : isLabelValue certificateType := by
  unfold checkType at h
  split at h
  · assumption
  · cases h

theorem length_le_of_checkType {certificateType : String}
    (h : checkType certificateType = .ok ()) :
    certificateType.toList.length ≤ maxLabelValue :=
  length_le_of_isLabelValue (isLabelValue_of_checkType h)

/-- The longest name of a pod with which every type fits into the name of a secret. -/
def maxPodLength : Nat := maxLength - (maxLabelValue + 7)

/-- Two pods share a name of their secrets exactly if their own names are the same but for the
length of their runs of dashes. -/
theorem node_eq_node_iff {p q certificateType : String}
    (valid : checkType certificateType = .ok ()) (hp : isSubdomain p) (hq : isSubdomain q)
    (hpfits : p.toList.length ≤ maxPodLength) (hqfits : q.toList.length ≤ maxPodLength) :
    node p certificateType = node q certificateType ↔
      collapse false p.toList = collapse false q.toList := by
  have hend : (nodeEnd certificateType).length ≤ maxLabelValue + 7 :=
    length_nodeEnd certificateType ▸ Nat.add_le_add_right (length_le_of_checkType valid) 7
  have hfits : maxPodLength + (maxLabelValue + 7) ≤ maxLength := by decide
  rw [node_eq (legal_of_isSubdomain hp) (by omega), node_eq (legal_of_isSubdomain hq) (by omega),
    String.ofList_inj, List.append_cancel_right_eq]

/-- Where no dash follows a dash nothing is left out. -/
theorem collapse_eq_self {cs : List Char} {afterDash : Bool} (h : ¬ ['-', '-'] <:+: cs)
    (hfirst : afterDash → cs.head? ≠ some '-') : collapse afterDash cs = cs := by
  induction cs generalizing afterDash with
  | nil => rfl
  | cons c cs ih =>
    rw [List.infix_cons_iff, not_or] at h
    obtain ⟨hpair, hrest⟩ := h
    rw [collapse]
    split
    · next hc =>
      have hnext : cs.head? ≠ some '-' := by
        intro hd
        obtain ⟨rest, rfl⟩ := List.head?_eq_some_iff.1 hd
        exact hpair ⟨rest, by rw [hc]; rfl⟩
      rw [if_neg fun hb => hfirst hb (hc ▸ rfl), ih hrest fun _ => hnext]
    · have hcs : collapse false cs = cs := ih hrest (by simp)
      rw [hcs]

/-! ### The names of clusters -/

theorem isUpper_iff {c : Char} : c.isUpper ↔ 65 ≤ c.toNat ∧ c.toNat ≤ 90 := by
  have hupper : c.isUpper = decide (c.val ≥ 'A'.val ∧ c.val ≤ 'Z'.val) := rfl
  rw [hupper, decide_eq_true_eq, ge_iff_le, UInt32.le_iff_toNat_le, UInt32.le_iff_toNat_le]
  exact Iff.rfl

theorem isAlphanumeric_iff {c : Char} :
    isAlphanumeric c ↔ c.isUpper ∨ isSmallAlphanumeric c := by
  have hparts : isAlphanumeric c = (c.isUpper || c.isLower || c.isDigit) := rfl
  rw [hparts, Bool.or_assoc, Bool.or_eq_true, isSmallAlphanumeric]

/-- The name of an object can be the value of a label exactly if it is not too long. -/
theorem isLabelValue_iff_of_isSubdomain {text : String} (h : isSubdomain text) :
    isLabelValue text ↔ text.toList.length ≤ maxLabelValue := by
  refine ⟨length_le_of_isLabelValue, fun hlength => ?_⟩
  obtain ⟨⟨c, rest, hfirst, hc⟩, ⟨init, c', hlast, hc'⟩, hclean⟩ := legal_of_isSubdomain h
  have hsmall : ∀ {d : Char}, isSmallAlphanumeric d → isAlphanumeric d := fun hd =>
    isAlphanumeric_iff.2 (.inr hd)
  simp only [isLabelValue, Bool.and_eq_true, decide_eq_true_eq, List.all_eq_true]
  refine ⟨⟨⟨hlength, ?_⟩, ?_⟩, fun d hd => ?_⟩
  · simpa [hfirst] using hsmall hc
  · simpa [hlast] using hsmall hc'
  · have := hclean d hd
    simp only [Bool.or_eq_true] at this ⊢
    rcases this with (hletter | hpoint) | hdash
    · exact .inl (.inl (.inl (hsmall hletter)))
    · exact .inr hpoint
    · exact .inl (.inl (.inr hdash))

/-- A letter or digit is cleaned to a small one. -/
theorem isSmallAlphanumeric_cleanChar {c : Char} (h : isAlphanumeric c) :
    isSmallAlphanumeric (cleanChar c) := by
  rcases isAlphanumeric_iff.1 h with hupper | hsmall
  · rw [isUpper_iff] at hupper
    rw [isSmallAlphanumeric_iff, toNat_cleanChar_of_capital hupper]
    omega
  · rwa [cleanChar_of_clean (by simp [hsmall])]

/-- What can be the value of a label is legal once it is cleaned. -/
theorem legal_of_isLabelValue {text : String} (h : isLabelValue text) :
    Legal (text.toList.map cleanChar) := by
  simp only [isLabelValue, Bool.and_eq_true] at h
  obtain ⟨⟨⟨-, hfirst⟩, hlast⟩, -⟩ := h
  refine ⟨?_, ?_, fun c hc => ?_⟩
  · obtain ⟨c, hc, halpha⟩ := (Option.any_eq_true ..).1 hfirst
    obtain ⟨rest, hcs⟩ := List.head?_eq_some_iff.1 hc
    exact ⟨cleanChar c, rest.map cleanChar, by rw [hcs, List.map_cons],
      isSmallAlphanumeric_cleanChar halpha⟩
  · obtain ⟨c, hc, halpha⟩ := (Option.any_eq_true ..).1 hlast
    obtain ⟨init, hcs⟩ := List.getLast?_eq_some_iff.1 hc
    exact ⟨init.map cleanChar, cleanChar c, by simp [hcs], isSmallAlphanumeric_cleanChar halpha⟩
  · obtain ⟨c, -, rfl⟩ := List.mem_map.1 hc
    exact cleanChar_clean c

/-- The name of an authority's secret is that of its cluster, cleaned and with single dashes, and
what comes after it. -/
theorem authority_eq {clusterName : String} (h : isLabelValue clusterName) :
    authority clusterName =
      String.ofList (collapse false (clusterName.toList.map cleanChar) ++ ['-', 'c', 'a']) := by
  have hfits : clusterName.toList.length + 3 ≤ maxLength :=
    Nat.le_trans (Nat.add_le_add_right (length_le_of_isLabelValue h) 3) (by decide)
  have hparts : (clusterName ++ "-ca").toList = clusterName.toList ++ ['-', 'c', 'a'] :=
    String.toList_append
  have hname : sanitizeChars (clusterName.toList ++ ['-', 'c', 'a']) =
      collapse false (clusterName.toList.map cleanChar) ++ ['-', 'c', 'a'] :=
    sanitizeChars_append (legal_of_isLabelValue h) ⟨['-', 'c'], 'a', rfl, rfl⟩ hfits
  rw [authority, sanitize, hparts, hname]

/-- Two clusters share a name of their secrets exactly if their own names are the same but for the
case of letters, underscores in place of dashes, and the length of their runs of dashes. -/
theorem authority_eq_authority_iff {p q : String} (hp : isLabelValue p) (hq : isLabelValue q) :
    authority p = authority q ↔
      collapse false (p.toList.map cleanChar) = collapse false (q.toList.map cleanChar) := by
  rw [authority_eq hp, authority_eq hq, String.ofList_inj, List.append_cancel_right_eq]

/-- Without capital letters and underscores the value of a label is clean. -/
theorem map_cleanChar_of_isLabelValue {text : String} (h : isLabelValue text)
    (hplain : ∀ c ∈ text.toList, ¬ c.isUpper ∧ c ≠ '_') :
    text.toList.map cleanChar = text.toList := by
  simp only [isLabelValue, Bool.and_eq_true, List.all_eq_true] at h
  refine map_cleanChar_of_clean fun c hc => ?_
  obtain ⟨hupper, hunderscore⟩ := hplain c hc
  have hchar := h.2 c hc
  simp only [Bool.or_eq_true, beq_iff_eq, isAlphanumeric_iff] at hchar ⊢
  grind

end SecretName

end NodePki
