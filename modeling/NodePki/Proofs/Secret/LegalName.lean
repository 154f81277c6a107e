import NodePki.Proofs.Secret.Name

/-!
# Which names of secrets are legal

A text is cleaned as a whole: what is left has legal characters, no dashes or points at its ends and
is not too long, so that it is legal unless nothing is left or a point has a point or a dash beside it
(`isSubdomain_sanitize_iff`). None of the steps puts a point apart from what is beside it: not the
cleaning of characters, which makes dashes of underscores, nor that a run of dashes is written as one
(`spaced_collapse_iff`).

In the name of a node's secret the pod is kept as a whole, and of the type what is not cut off
(`keptType`). So the name is legal exactly if that is spaced, and the name of an authority's secret
exactly if the name of its cluster is (`names_isSubdomain_iff`).
-/

namespace NodePki.SecretName

variable {cs xs ys : List Char} {c : Char}

/-! ### Runs of dashes -/

/-- What comes after a character is spaced with one dash for a run exactly if it is with the run. -/
theorem spaced_cons_collapse_iff (c : Char) (cs : List Char) :
    Spaced (c :: collapse (c = '-') cs) ↔ Spaced (c :: cs) := by
  induction cs generalizing c with
  | nil => rfl
  | cons d cs ih =>
    rw [collapse_cons]
    split
    · next hdash =>
      -- the dash that is left out may stand beside the one before it
      obtain ⟨rfl, hc⟩ := hdash
      obtain rfl : c = '-' := of_decide_eq_true hc
      rw [spaced_cons_cons_iff, and_iff_right fun _ _ => ⟨rfl, rfl⟩]
      exact ih '-'
    · rw [List.singleton_append, spaced_cons_cons_iff, spaced_cons_cons_iff, ih d]

/-- A text is spaced exactly if it is with single dashes. -/
theorem spaced_collapse_iff : Spaced (collapse false cs) ↔ Spaced cs := by
  cases cs with
  | nil => rfl
  | cons c cs =>
    rw [collapse_cons]
    simpa using spaced_cons_collapse_iff c cs

theorem legal_collapse (h : Legal cs) : Legal (collapse false cs) := by
  refine ⟨?_, ?_, fun c hc => h.clean c ((collapse_sublist false cs).mem hc)⟩
  · obtain ⟨c, rest, rfl, hc⟩ := h.first
    exact ⟨c, collapse (c = '-') rest, by simp [collapse_cons], hc⟩
  · obtain ⟨init, c, rfl, hc⟩ := h.last
    refine ⟨collapse false init, c, ?_, hc⟩
    simp [collapse_append, collapse, ne_dash_of_isSmallAlphanumeric hc]

/-- Before a letter or digit it makes no difference whether a dash came. -/
theorem Legal.collapse_eq (h : Legal cs) (afterDash : Bool) :
    collapse afterDash cs = collapse false cs := by
  obtain ⟨c, rest, rfl, hc⟩ := h.first
  simp [collapse_cons, ne_dash_of_isSmallAlphanumeric hc]

/-! ### Ends -/

theorem trimEdges_of_head (h : ∀ c ∈ cs.head?, isEdge c = false) :
    trimEdges cs = cs.rdropWhile isEdge := by
  cases cs with
  | nil => rfl
  | cons c cs => rw [trimEdges_eq_rdropWhile, List.dropWhile_cons_of_neg (by simp [h c rfl])]

theorem rdropWhile_append (xs ys : List Char) (h : ∀ c ∈ xs.getLast?, isEdge c = false) :
    (xs ++ ys).rdropWhile isEdge = xs ++ ys.rdropWhile isEdge := by
  induction ys using List.reverseRecOn with
  | nil =>
    rw [List.append_nil, List.rdropWhile_nil, List.append_nil, List.rdropWhile_eq_self_iff]
    intro hne
    simp [h _ (List.getLast_mem_getLast? hne)]
  | append_singleton ys c ih =>
    rw [← List.append_assoc, List.rdropWhile_concat, List.rdropWhile_concat, ih]
    split <;> simp

theorem isEdge_getLast?_rdropWhile (cs : List Char) :
    ∀ c ∈ (cs.rdropWhile isEdge).getLast?, isEdge c = false := by
  intro c hc
  rw [List.rdropWhile, List.getLast?_reverse] at hc
  have := List.head?_dropWhile_not isEdge cs.reverse
  rw [hc] at this
  simpa using this

theorem mem_head?_of_isPrefix (h : xs <+: ys) (hc : c ∈ xs.head?) : c ∈ ys.head? := by
  obtain ⟨rest, rfl⟩ := h
  exact List.head?_append_of_ne_nil xs (by rintro rfl; cases hc) ▸ hc

theorem isEdge_head?_trimEdges (cs : List Char) :
    ∀ c ∈ (trimEdges cs).head?, isEdge c = false := by
  intro c hc
  have := List.head?_dropWhile_not isEdge cs
  rw [mem_head?_of_isPrefix (List.rdropWhile_prefix isEdge _) hc] at this
  simpa using this

/-- Where there is no edge at either end nothing is trimmed. -/
theorem trimEdges_of_ends (hfirst : ∀ c ∈ cs.head?, isEdge c = false)
    (hlast : ∀ c ∈ cs.getLast?, isEdge c = false) : trimEdges cs = cs := by
  rw [trimEdges_of_head hfirst, List.rdropWhile_eq_self_iff]
  intro hne
  simp [hlast _ (List.getLast_mem_getLast? hne)]

/-- A text is cleaned by leaving out characters, once each of them is clean. -/
theorem sanitizeChars_sublist (cs : List Char) : (sanitizeChars cs).Sublist (cs.map cleanChar) :=
  (isInfix_trimEdges _).sublist.trans <| (List.take_sublist _ _).trans (collapse_sublist false _)

theorem clean_of_mem_sanitizeChars (h : c ∈ sanitizeChars cs) :
    isSmallAlphanumeric c || c == '.' || c == '-' := by
  obtain ⟨c, -, rfl⟩ := List.mem_map.1 ((sanitizeChars_sublist cs).mem h)
  exact cleanChar_clean c

/-- What a text is cleaned to is legal unless nothing is left. -/
theorem legal_sanitizeChars (h : sanitizeChars cs ≠ []) : Legal (sanitizeChars cs) :=
  legal_iff.2 ⟨⟨h, fun _ => clean_of_mem_sanitizeChars⟩, isEdge_head?_trimEdges _,
    isEdge_getLast?_rdropWhile _⟩

/-- A text is cleaned to a legal name unless nothing is left of it or a point has a point or a dash
beside it. -/
theorem isSubdomain_sanitize_iff (text : String) : isSubdomain (sanitize text) ↔
    sanitizeChars text.toList ≠ [] ∧ Spaced (sanitizeChars text.toList) := by
  have hlength := length_sanitize_le text
  rw [isSubdomain_iff, and_iff_right hlength, sanitize, String.toList_ofList]
  refine and_congr_left fun _ => ⟨?_, legal_sanitizeChars⟩
  exact fun h => (legal_iff.1 h).1.1

/-! ### Names of nodes' secrets -/

/-- What is left of a certificate type in the name of a node's secret, where the pod comes first and a
dash after it. -/
def keptType (podName certificateType : String) : List Char :=
  trimEdges ((collapse false (certificateType.toList.map cleanChar)).take
    (maxLength - ((collapse false podName.toList).length + 1)))

theorem Legal.spaced_append_iff (h : Legal xs) : Spaced (xs ++ ys) ↔ Spaced xs ∧ Spaced ys := by
  have hlast := (legal_iff.1 h).2.2
  refine List.isChain_append.trans (and_congr_right fun _ => and_iff_left ?_)
  intro a ha b _ hedge
  exact absurd hedge (by simp [hlast a ha])

theorem spaced_dash_cons_iff (h : ∀ c ∈ cs.head?, isEdge c = false) :
    Spaced ('-' :: cs) ↔ Spaced cs := by
  refine List.isChain_cons.trans (and_iff_right ?_)
  intro b hb _ hedge
  exact absurd hedge (by simp [h b hb])

theorem trimEdges_append (h : Legal xs) : trimEdges (xs ++ ys) = xs ++ ys.rdropWhile isEdge := by
  obtain ⟨⟨hne, -⟩, hfirst, hlast⟩ := legal_iff.1 h
  rw [trimEdges_of_head, rdropWhile_append xs ys hlast]
  rwa [List.head?_append_of_ne_nil xs hne]

theorem Legal.trimEdges_eq (h : Legal cs) : trimEdges cs = cs :=
  trimEdges_of_ends (legal_iff.1 h).2.1 (legal_iff.1 h).2.2

/-- The dash before a text that begins with no edge is cut off with it or does no harm. -/
theorem spaced_rdropWhile_dash_cons_iff (h : ∀ c ∈ cs.head?, isEdge c = false) :
    Spaced (('-' :: cs).rdropWhile isEdge) ↔ Spaced (cs.rdropWhile isEdge) := by
  cases cs with
  | nil => exact Iff.rfl
  | cons c cs =>
    have hc : isEdge c = false := h c rfl
    have hdash : ('-' :: c :: cs).rdropWhile isEdge = '-' :: c :: cs.rdropWhile isEdge :=
      rdropWhile_append ['-', c] cs (by simpa using hc)
    have hplain : (c :: cs).rdropWhile isEdge = c :: cs.rdropWhile isEdge :=
      rdropWhile_append [c] cs (by simpa using hc)
    rw [hdash, hplain]
    exact spaced_dash_cons_iff (by simpa using hc)

/-- Of a legal text with an end that has no points, cut anywhere, what counts is what is left of the
text. -/
theorem spaced_take_append_iff (h : Legal xs) (hys : '.' ∉ ys) (n : Nat) :
    Spaced (((xs ++ ys).take n).rdropWhile isEdge) ↔ Spaced (trimEdges (xs.take n)) := by
  obtain ⟨⟨hne, -⟩, hfirst, hlast⟩ := legal_iff.1 h
  by_cases hn : n ≤ xs.length
  · have hhead : ∀ c ∈ (xs.take n).head?, isEdge c = false := fun c hc =>
      hfirst c (mem_head?_of_isPrefix (List.take_prefix n xs) hc)
    rw [List.take_append_of_le_length hn, trimEdges_of_head hhead]
  · have hle : xs.length ≤ n := Nat.le_of_not_le hn
    have hend : '.' ∉ (ys.take (n - xs.length)).rdropWhile isEdge := fun hpoint =>
      hys (List.mem_of_mem_take ((List.rdropWhile_prefix isEdge _).mem hpoint))
    rw [List.take_append, List.take_of_length_le hle, h.trimEdges_eq, rdropWhile_append xs _ hlast,
      h.spaced_append_iff]
    exact and_iff_left (spaced_of_not_mem hend)

theorem legal_of_checkType {certificateType : String} (h : checkType certificateType = .ok ()) :
    Legal (certificateType.toList.map cleanChar) :=
  legal_of_isLabelValue (isLabelValue_of_checkType h)

/-- The pod's name is kept, with single dashes, and what comes after it is cut at its end. -/
theorem sanitizeChars_node {podName certificateType : String} (hpod : isSubdomain podName)
    (htype : checkType certificateType = .ok ()) :
    sanitizeChars (podName ++ "-" ++ certificateType ++ "-certs").toList =
      collapse false podName.toList ++
        (('-' :: (collapse false (certificateType.toList.map cleanChar) ++ "-certs".toList)).take
          (maxLength - (collapse false podName.toList).length)).rdropWhile isEdge := by
  obtain ⟨hlength, hlegal, -⟩ := isSubdomain_iff.1 hpod
  have hkept := legal_of_checkType htype
  have hclean : (podName ++ "-" ++ certificateType ++ "-certs").toList.map cleanChar =
      podName.toList ++ '-' :: (certificateType.toList.map cleanChar ++ "-certs".toList) := by
    simp only [String.toList_append, List.map_append, hlegal.map_cleanChar, List.append_assoc]
    rfl
  have hend : collapse false ('-' :: (certificateType.toList.map cleanChar ++ "-certs".toList)) =
      '-' :: (collapse false (certificateType.toList.map cleanChar) ++ "-certs".toList) := by
    rw [collapse_cons, collapse_append, hkept.endsInDash_eq, hkept.collapse_eq]
    rfl
  have hfits : (collapse false podName.toList).length ≤ maxLength :=
    Nat.le_trans (length_collapse_le _ _) hlength
  rw [sanitizeChars, hclean, collapse_append, hlegal.endsInDash_eq, hend, List.take_append,
    List.take_of_length_le hfits, trimEdges_append (legal_collapse hlegal)]

/-- The name of a node's secret is legal exactly if what is left of the type in it is spaced. -/
theorem isSubdomain_node_iff {podName certificateType : String} (hpod : isSubdomain podName)
    (htype : checkType certificateType = .ok ()) :
    isSubdomain (node podName certificateType) ↔ Spaced (keptType podName certificateType) := by
  obtain ⟨-, hlegal, hspaced⟩ := isSubdomain_iff.1 hpod
  have hkept := legal_collapse (legal_of_checkType htype)
  have hname := legal_collapse hlegal
  have hpoint : '.' ∉ "-certs".toList := by decide
  rw [node, isSubdomain_sanitize_iff, sanitizeChars_node hpod htype, hname.spaced_append_iff,
    spaced_collapse_iff, and_iff_right hspaced,
    and_iff_right (List.append_ne_nil_of_left_ne_nil (legal_iff.1 hname).1.1 _), keptType]
  generalize (collapse false podName.toList).length = length
  cases hleft : maxLength - length with
  | zero =>
    rw [Nat.sub_add_eq, hleft]
    exact Iff.rfl
  | succ n =>
    have hhead : ∀ c ∈ ((collapse false (certificateType.toList.map cleanChar) ++
        "-certs".toList).take n).head?, isEdge c = false := by
      intro c hc
      have hc := mem_head?_of_isPrefix (List.take_prefix n _) hc
      rw [List.head?_append_of_ne_nil _ (legal_iff.1 hkept).1.1] at hc
      exact (legal_iff.1 hkept).2.1 c hc
    rw [Nat.sub_add_eq, hleft, List.take_succ_cons, spaced_rdropWhile_dash_cons_iff hhead]
    exact spaced_take_append_iff hkept hpoint n

/-- Of a spaced type what is left is spaced, wherever it is cut. -/
theorem spaced_keptType (podName : String) {certificateType : String}
    (h : Spaced (certificateType.toList.map cleanChar)) :
    Spaced (keptType podName certificateType) :=
  (spaced_collapse_iff.2 h).of_isInfix ((isInfix_trimEdges _).trans (List.take_prefix _ _).isInfix)

/-- With pods' names of usual length nothing of a type is cut off. -/
theorem keptType_eq {podName certificateType : String}
    (hfits : podName.toList.length ≤ maxPodLength) (htype : checkType certificateType = .ok ()) :
    keptType podName certificateType = collapse false (certificateType.toList.map cleanChar) := by
  have hpod := length_collapse_le false podName.toList
  have hlength := length_collapse_le false (certificateType.toList.map cleanChar)
  have hvalue := length_le_of_checkType htype
  have hroom : maxPodLength + (maxLabelValue + 7) ≤ maxLength := by decide
  rw [List.length_map] at hlength
  rw [keptType, List.take_of_length_le (by omega)]
  exact (legal_collapse (legal_of_checkType htype)).trimEdges_eq

/-- The name of an authority's secret is legal exactly if the name of its cluster is spaced. -/
theorem isSubdomain_authority_iff {clusterName : String} (h : isLabelValue clusterName) :
    isSubdomain (authority clusterName) ↔ Spaced (clusterName.toList.map cleanChar) := by
  have hname := legal_collapse (legal_of_isLabelValue h)
  have hchars : sanitizeChars (clusterName ++ "-ca").toList =
      collapse false (clusterName.toList.map cleanChar) ++ ['-', 'c', 'a'] :=
    String.ofList_inj.1 (authority_eq h)
  have hend : Spaced ['-', 'c', 'a'] := by decide
  rw [authority, isSubdomain_sanitize_iff, hchars, hname.spaced_append_iff, spaced_collapse_iff,
    and_iff_right (List.append_ne_nil_of_left_ne_nil (legal_iff.1 hname).1.1 _),
    and_iff_left hend]

/-- The names of secrets are legal exactly where, of what they are made from, the name of the cluster
and what is left of the type are spaced. A spaced type always is, and others only if a pod's name is
so long that it leaves no room for what is not spaced. -/
theorem names_isSubdomain_iff {podName certificateType clusterName : String}
    (hpod : isSubdomain podName) (htype : checkType certificateType = .ok ())
    (hcluster : isLabelValue clusterName) :
    (isSubdomain (node podName certificateType) ↔ Spaced (keptType podName certificateType)) ∧
      (Spaced (certificateType.toList.map cleanChar) →
        Spaced (keptType podName certificateType)) ∧
      (podName.toList.length ≤ maxPodLength → Spaced (keptType podName certificateType) →
        Spaced (certificateType.toList.map cleanChar)) ∧
      (isSubdomain (authority clusterName) ↔ Spaced (clusterName.toList.map cleanChar)) := by
  refine ⟨isSubdomain_node_iff hpod htype, spaced_keptType podName, fun hfits hkept => ?_,
    isSubdomain_authority_iff hcluster⟩
  rwa [keptType_eq hfits htype, spaced_collapse_iff] at hkept

/-- A type and a cluster whose names are values of labels, and their secrets' names not legal. -/
theorem not_isSubdomain_transport :
    (isSubdomain "es-node-1" ∧ checkType "transport.-only" = .ok () ∧
      ¬ isSubdomain (node "es-node-1" "transport.-only")) ∧
      isLabelValue "demo..eu" ∧ ¬ isSubdomain (authority "demo..eu") := by
  decide

/-- The usual names are legal. -/
theorem names_isSubdomain_iff_usual :
    isSubdomain "es-node-1" ∧ checkType "elasticsearch.all" = .ok () ∧ isLabelValue "demo" ∧
      isSubdomain (node "es-node-1" "elasticsearch.all") ∧ isSubdomain (authority "demo") := by
  have hpod : isSubdomain "es-node-1" := by decide
  have htype : checkType "elasticsearch.all" = .ok () := by decide
  have hcluster : isLabelValue "demo" := by decide
  obtain ⟨hnode, hkept, -, hauthority⟩ := names_isSubdomain_iff hpod htype hcluster
  exact ⟨hpod, htype, hcluster, hnode.2 (hkept (by decide)), hauthority.2 (by decide)⟩

end NodePki.SecretName
