import NodePki.Encoding.Pem
import NodePki.Proofs.Encoding.Base64

/-!
# Written blocks read back

A block that is written is the first block of its text (`document?_encode`), and of every text in which
it stands with no dash before it (`document?_append`). Each marker begins with a dash, and there is none
between the markers (`of_mem_body`), so each search ends at the marker that was written; and there is no
empty line in a body, so none of it is taken for headers.
-/

namespace NodePki.Pem

/-! ## Searching -/

section Search

variable {marker pre rest : List Char}

/-- Before the first character of a marker nothing is found. -/
theorem searchFrom_append (hne : marker ≠ []) (hpre : ∀ c ∈ pre, marker.head? ≠ some c)
    (seen cs : List Char) :
    searchFrom marker 0 seen (pre ++ cs) = searchFrom marker 0 (pre.reverse ++ seen) cs := by
  induction pre generalizing seen with
  | nil => rfl
  | cons c pre ih =>
    rw [List.forall_mem_cons] at hpre
    have hc : marker[0]? ≠ some c := List.head?_eq_getElem? ▸ hpre.1
    have hlen : 0 ≠ marker.length := fun h => hne (List.length_eq_zero_iff.1 h.symm)
    rw [List.cons_append, searchFrom, if_neg hc, if_neg hlen, ih hpre.2, List.reverse_cons,
      List.append_assoc, List.singleton_append]

/-- What is left of a marker is found where it stands. -/
theorem searchFrom_of_append_eq {x y : List Char} (hxy : x ++ y = marker) (hy : y ≠ [])
    (seen rest : List Char) :
    searchFrom marker x.length seen (y ++ rest) =
      some ((y.reverse ++ seen).drop marker.length, rest) := by
  induction y generalizing x seen with
  | nil => exact absurd rfl hy
  | cons c y ih =>
    have hc : marker[x.length]? = some c := by simp [← hxy]
    rw [List.cons_append, searchFrom, if_pos hc]
    by_cases hend : y = []
    · subst hend
      rw [if_pos (by simp [← hxy])]
      rfl
    · have hlen : x.length + 1 ≠ marker.length := by
        have := List.length_pos_iff.2 hend
        simp [← hxy]
        omega
      rw [if_neg hlen]
      have hnext := ih (x := x ++ [c]) (by simpa using hxy) hend (c :: seen)
      rw [List.length_append, List.length_singleton] at hnext
      rw [hnext, List.reverse_cons, List.append_assoc, List.singleton_append]

/-- A marker is found behind a text without its first character. -/
theorem search_append (hne : marker ≠ []) (hpre : ∀ c ∈ pre, marker.head? ≠ some c)
    (rest : List Char) : search marker (pre ++ (marker ++ rest)) = some (pre, rest) := by
  rw [search, searchFrom_append hne hpre]
  have hfound := searchFrom_of_append_eq (List.nil_append marker) hne (pre.reverse ++ []) rest
  rw [List.length_nil] at hfound
  rw [hfound]
  simp

theorem search_eq_none (hne : marker ≠ []) (hpre : ∀ c ∈ pre, marker.head? ≠ some c) :
    search marker pre = none := by
  rw [search, ← List.append_nil pre, searchFrom_append hne hpre]
  rfl

end Search

/-! ## The lines of a body -/

theorem flatten_pieces {α : Type} {size n : Nat} (hsize : 0 < size) {l : List α}
    (h : l.length ≤ n) : (pieces size n l).flatten = l := by
  induction n generalizing l with
  | zero => rw [List.length_eq_zero_iff.1 (Nat.le_zero.1 h)]; rfl
  | succ n ih =>
    cases l with
    | nil => rfl
    | cons a l =>
      rw [pieces, List.flatten_cons, ih, List.take_append_drop]
      · simp only [List.length_drop, List.length_cons] at h ⊢
        omega
      · exact List.cons_ne_nil a l

theorem ne_nil_of_mem_pieces {α : Type} {size n : Nat} (hsize : 0 < size) {l : List α} :
    ∀ piece ∈ pieces size n l, piece ≠ [] := by
  induction n generalizing l with
  | zero => simp [pieces]
  | succ n ih =>
    cases l with
    | nil => simp [pieces]
    | cons a l =>
      rw [pieces, List.forall_mem_cons]
      · refine ⟨fun h => ?_, ih⟩
        rcases List.take_eq_nil_iff.1 h with h | h
        · omega
        · cases h
      · exact List.cons_ne_nil a l

/-- A line of characters that octets are written with. -/
structure IsBodyLine (line : List Char) : Prop where
  nonempty : line ≠ []
  symbols : ∀ c ∈ line, Base64.IsSymbol c

theorem flatten_bodyLines (bs : Bytes) : (bodyLines bs).flatten = Base64.encodeChars bs :=
  flatten_pieces (by decide) (Nat.le_refl _)

theorem isBodyLine_of_mem {bs : Bytes} : ∀ line ∈ bodyLines bs, IsBodyLine line := fun line h => by
  refine ⟨ne_nil_of_mem_pieces (by decide) line h, fun c hc => ?_⟩
  exact Base64.isSymbol_of_mem_encodeChars c (flatten_bodyLines bs ▸ List.mem_flatten_of_mem h hc)

/-- The text of a body: its lines, each with its end. -/
def body (lines : List (List Char)) : List Char := lines.flatMap fun line => line ++ ['\n']

theorem body_cons (line : List Char) (lines : List (List Char)) :
    body (line :: lines) = line ++ '\n' :: body lines := by
  simp [body]

section Body

variable {lines : List (List Char)} (h : ∀ line ∈ lines, IsBodyLine line)

include h

/-- What holds of line feeds and of all characters of base64 holds in a body. -/
theorem of_mem_body {p : Char → Bool} (hp : p '\n' ∧ p '=' ∧ ∀ n < 64, p (Base64.symbol n)) :
    ∀ c ∈ body lines, p c := by
  intro c hc
  simp only [body, List.mem_flatMap, List.mem_append, List.mem_singleton] at hc
  obtain ⟨line, hline, hc | rfl⟩ := hc
  · exact ((h line hline).symbols c hc).of_all hp.2
  · exact hp.1

theorem filter_body : (body lines).filter (fun c => !Text.isBlank c) = lines.flatten := by
  induction lines with
  | nil => rfl
  | cons line lines ih =>
    rw [List.forall_mem_cons] at h
    have hline : line.filter (fun c => !Text.isBlank c) = line := by
      refine List.filter_eq_self.2 fun c hc => ?_
      exact (h.1.symbols c hc).of_all (p := fun c => !Text.isBlank c) (by decide)
    rw [body_cons, List.filter_append, List.filter_cons, hline, ih h.2]
    rfl

/-- A body does not begin with a blank. -/
theorem dropWhile_isGap_body (c : Char) (cs : List Char) (hc : isGap c = false) :
    (body lines ++ c :: cs).dropWhile isGap = body lines ++ c :: cs := by
  cases lines with
  | nil => rw [body, List.flatMap_nil, List.nil_append, List.dropWhile_cons_of_neg (by simp [hc])]
  | cons line lines =>
    rw [List.forall_mem_cons] at h
    obtain ⟨d, ds, rfl⟩ := List.exists_cons_of_ne_nil h.1.nonempty
    have hd : !isGap d := (h.1.symbols d List.mem_cons_self).of_all (p := fun c => !isGap c)
      (by decide)
    rw [body_cons, List.cons_append, List.cons_append,
      List.dropWhile_cons_of_neg (by simpa using hd)]

/-- There is no empty line in a body. -/
theorem searchFrom_body {found : Nat} (hfound : found ≤ 1) (seen : List Char) :
    searchFrom ['\n', '\n'] found seen (body lines) = none := by
  induction lines generalizing found seen with
  | nil => rfl
  | cons line lines ih =>
    rw [List.forall_mem_cons] at h
    have hline : ∀ c ∈ line, c ≠ '\n' := fun c hc => by
      simpa using (h.1.symbols c hc).of_all (p := fun c => c != '\n') (by decide)
    obtain ⟨c, cs, rfl⟩ := List.exists_cons_of_ne_nil h.1.nonempty
    rw [List.forall_mem_cons] at hline
    have hc : ['\n', '\n'][found]? ≠ some c := by
      obtain rfl | rfl : found = 0 ∨ found = 1 := by omega
      all_goals simpa using hline.1.symm
    have hcs : ∀ d ∈ cs, ['\n', '\n'].head? ≠ some d := fun d hd => by
      simpa using (hline.2 d hd).symm
    rw [body_cons, List.cons_append, searchFrom, if_neg hc, if_neg (by decide),
      searchFrom_append (by decide) hcs, searchFrom]
    exact ih h.2 (Nat.le_refl 1) _

/-- Nothing in a body is taken for headers. -/
theorem splitHeaders_body : splitHeaders (body lines) = ([], body lines) := by
  have hfeeds : search ['\n', '\n'] (body lines) = none := by
    rw [search, searchFrom_body h (Nat.zero_le 1)]
    rfl
  have hreturns : search ['\r', '\n', '\r', '\n'] (body lines) = none := by
    refine search_eq_none (by decide) fun c hc => ?_
    have := of_mem_body h (p := fun c => c != '\r') (by decide) c hc
    rintro ⟨⟩
    cases this
  rw [splitHeaders, hfeeds, hreturns]
  rfl

end Body

/-! ## Blocks -/

/-- A written block is the first block of every text in which no dash stands before it, if its label is
not empty and has no dash. -/
theorem document?_append {b : Block} (hne : b.label ≠ "") (hdash : '-' ∉ b.label.toList)
    {before : String} (hbefore : '-' ∉ before.toList) (after : String) :
    document? (before ++ b.encode ++ after) = some b := by
  have hlines : ∀ line ∈ bodyLines b.contents, IsBodyLine line := isBodyLine_of_mem
  have hhead : ∀ {cs : List Char}, '-' ∉ cs → ∀ c ∈ cs, some '-' ≠ some c := by
    rintro cs hcs c hc ⟨⟩
    exact hcs hc
  have hbody : ∀ c ∈ body (bodyLines b.contents), endMark.head? ≠ some c := fun c hc => by
    have := of_mem_body hlines (p := fun c => c != '-') (by decide) c hc
    rintro ⟨⟩
    cases this
  have htext : (before ++ b.encode ++ after).toList =
      before.toList ++ (beginMark ++ (b.label.toList ++ (dashes ++ ('\n' ::
        (body (bodyLines b.contents) ++
          (endMark ++ (b.label.toList ++ (dashes ++ ('\n' :: after.toList))))))))) := by
    simp [Block.encode, body]
  have hgap : ∀ rest, (('\n' : Char) :: (body (bodyLines b.contents) ++ (endMark ++ rest))).dropWhile
      isGap = body (bodyLines b.contents) ++ (endMark ++ rest) := fun rest => by
    rw [List.dropWhile_cons_of_pos (by decide)]
    exact dropWhile_isGap_body hlines '-' _ (by decide)
  rw [document?, htext]
  simp only [search_append (show beginMark ≠ [] by decide) (hhead hbefore),
    search_append (show dashes ≠ [] by decide) (hhead hdash), hgap,
    search_append (show endMark ≠ [] by decide) hbody, splitHeaders_body hlines,
    filter_body hlines, flatten_bodyLines, Base64.decodeChars_encodeChars,
    Option.bind_eq_bind, Option.bind_some]
  rw [if_neg (by simpa using hne), if_pos (by decide), String.ofList_toList]
  rfl

/-- A written block is the first block of its text. -/
theorem document?_encode {b : Block} (hne : b.label ≠ "") (hdash : '-' ∉ b.label.toList) :
    document? b.encode = some b := by
  have hnone : '-' ∉ "".toList := by decide
  have h := document?_append hne hdash hnone ""
  rwa [String.empty_append, String.append_empty] at h

end NodePki.Pem
