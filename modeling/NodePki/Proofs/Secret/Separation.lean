import NodePki.Proofs.Secret.LegalName

/-!
# Names of authorities' secrets and names of nodes' secrets

The two are told apart by their ends, `ca` and `certs`. An authority's name has its end unless the
cluster's name is very long (`getLast?_authority`). A node's name may be cut before its end, but
then it is longer than the name of an authority whose cluster can be named in a label
(`getLast?_node_or_lt_length`). So no secret is named for both (`authority_ne_node`).
-/

namespace NodePki.SecretName

/-- A last character that is no edge is not trimmed. -/
theorem getLast?_trimEdges {cs : List Char} {c : Char} (hlast : cs.getLast? = some c)
    (hc : isEdge c = false) : (trimEdges cs).getLast? = some c := by
  obtain ⟨init, rfl⟩ := List.getLast?_eq_some_iff.1 hlast
  have hdrop : ∃ init', (init ++ [c]).dropWhile isEdge = init' ++ [c] := by
    rw [List.dropWhile_append]
    split
    · exact ⟨[], List.dropWhile_cons_of_neg (by simp [hc])⟩
    · exact ⟨_, rfl⟩
  obtain ⟨init', hdrop⟩ := hdrop
  rw [trimEdges_eq_rdropWhile, hdrop, List.rdropWhile_concat_neg _ _ _ (by simp [hc])]
  exact List.getLast?_concat

/-- Cleaning makes no text longer. -/
theorem length_sanitizeChars_le (cs : List Char) : (sanitizeChars cs).length ≤ cs.length := by
  refine (length_trimEdges_le _).trans ((List.length_take_le' _ _).trans ?_)
  exact (length_collapse_le _ _).trans_eq (List.length_map _)

/-- The name of an authority's secret ends like `ca` unless there is no room for it. -/
theorem getLast?_authority {clusterName : String}
    (hfits : clusterName.toList.length + 3 ≤ maxLength) :
    (sanitizeChars (clusterName ++ "-ca").toList).getLast? = some 'a' := by
  have hclean : (clusterName ++ "-ca").toList.map cleanChar =
      clusterName.toList.map cleanChar ++ ['-', 'c'] ++ ['a'] := by
    simp only [String.toList_append, List.map_append, List.append_assoc]
    rfl
  have hlength : (collapse false ((clusterName ++ "-ca").toList.map cleanChar)).length ≤
      maxLength := by
    refine (length_collapse_le _ _).trans ?_
    rwa [List.length_map, String.toList_append, List.length_append]
  rw [sanitizeChars, List.take_of_length_le hlength, hclean, collapse_append]
  exact getLast?_trimEdges List.getLast?_concat rfl

/-- The name of a node's secret ends like `certs`, or is so long that it was cut. -/
theorem getLast?_node_or_lt_length {podName certificateType : String} (hpod : isSubdomain podName)
    (htype : checkType certificateType = .ok ()) :
    (sanitizeChars (podName ++ "-" ++ certificateType ++ "-certs").toList).getLast? = some 's' ∨
      maxPodLength < (sanitizeChars
        (podName ++ "-" ++ certificateType ++ "-certs").toList).length := by
  have hkept := length_collapse_le false (certificateType.toList.map cleanChar)
  have hvalue := length_le_of_checkType htype
  have hroom : maxPodLength + (maxLabelValue + 7) ≤ maxLength := by decide
  rw [List.length_map] at hkept
  rw [sanitizeChars_node hpod htype]
  generalize collapse false podName.toList = pod
  generalize collapse false (certificateType.toList.map cleanChar) = kept at hkept
  by_cases hfits : pod.length ≤ maxPodLength
  · have hend : '-' :: (kept ++ "-certs".toList) = '-' :: (kept ++ "-cert".toList) ++ ['s'] := by
      simp
    have hlength : ('-' :: (kept ++ "-certs".toList)).length = kept.length + 7 := by simp
    left
    rw [List.take_of_length_le (by omega), hend, List.rdropWhile_concat_neg _ _ _ (by decide),
      ← List.append_assoc]
    exact List.getLast?_concat
  · right
    rw [List.length_append]
    omega

/-- No authority's secret has the name of a node's secret, if the name of its cluster is no longer
than the value of a label, whatever its characters. -/
theorem authority_ne_node {clusterName podName certificateType : String}
    (hcluster : clusterName.toList.length ≤ maxLabelValue) (hpod : isSubdomain podName)
    (htype : checkType certificateType = .ok ()) :
    authority clusterName ≠ node podName certificateType := by
  intro heq
  have hchars : sanitizeChars (clusterName ++ "-ca").toList =
      sanitizeChars (podName ++ "-" ++ certificateType ++ "-certs").toList :=
    String.ofList_inj.1 heq
  have hshort : maxLabelValue + 3 ≤ maxPodLength := by decide
  have hlength := length_sanitizeChars_le (clusterName ++ "-ca").toList
  rw [String.toList_append, List.length_append] at hlength
  rcases getLast?_node_or_lt_length hpod htype with hlast | hcut
  · rw [← hchars, getLast?_authority (by simp only [maxLength, maxLabelValue] at *; omega)] at hlast
    cases hlast
  · rw [← hchars, String.toList_append] at hcut
    have : "-ca".toList.length = 3 := rfl
    omega

/-- A name of a number of letters. -/
def letters (count : Nat) : String := String.ofList (List.replicate count 'x')

@[simp] theorem toList_letters (count : Nat) :
    (letters count).toList = List.replicate count 'x' :=
  String.toList_ofList

/-- A pod's name that leaves room for two letters of the type after it, so that the name of its
secret ends like that of an authority's. -/
theorem authority_ne_node_cut :
    (letters 63).toList.length ≤ maxLabelValue ∧ isSubdomain (letters 250) ∧
      checkType "cadre" = .ok () ∧
      (node (letters 250) "cadre").toList = List.replicate 250 'x' ++ ['-', 'c', 'a'] ∧
      authority (letters 63) ≠ node (letters 250) "cadre" := by
  have hcluster : (letters 63).toList.length ≤ maxLabelValue := by
    rw [toList_letters, List.length_replicate]
    decide
  have hpod : isSubdomain (letters 250) := by
    rw [isSubdomain, toList_letters]
    decide +kernel
  have htype : checkType "cadre" = .ok () := by decide
  have hname : (node (letters 250) "cadre").toList = List.replicate 250 'x' ++ ['-', 'c', 'a'] := by
    simp only [node, sanitize, String.toList_ofList, String.toList_append, toList_letters]
    decide +kernel
  exact ⟨hcluster, hpod, htype, hname, authority_ne_node hcluster hpod htype⟩

/-- The names meet where that of the cluster is too long for a label. -/
example : authority (letters 250) = node (letters 250) "cadre" := by
  simp only [authority, node, sanitize, String.toList_append, toList_letters]
  decide +kernel

end NodePki.SecretName
