import NodePki.Text.Split

/-!
# Pieces and the whole

A text is put together again from its pieces (`intercalate_splitOn`), so that no two texts have the
same ones, and the pieces of a text that is put together with a mark are those of its sides
(`splitOn_append`). Which sides those were cannot be told if the mark is found elsewhere
(`append_cons_eq_append_cons_iff`), but those of the first mark can (`splitFirst_eq_some_iff`).
-/

namespace NodePki.Text

variable {α : Type}

/-- Two lists with a middle element are the same if they are put together alike, or the middle of each
is found in a part of the other. -/
theorem append_cons_eq_append_cons_iff {xs xs' ys ys' : List α} {a : α} :
    xs ++ a :: ys = xs' ++ a :: ys' ↔
      (xs = xs' ∧ ys = ys') ∨
        (∃ between, xs' = xs ++ a :: between ∧ ys = between ++ a :: ys') ∨
        ∃ between, xs = xs' ++ a :: between ∧ ys' = between ++ a :: ys := by
  constructor
  · intro h
    rcases List.append_eq_append_iff.1 h with ⟨as, rfl, htail⟩ | ⟨as, rfl, htail⟩
    · rcases List.cons_eq_append_iff.1 htail with ⟨rfl, h'⟩ | ⟨between, rfl, h'⟩
      · cases h'
        exact .inl ⟨(List.append_nil xs).symm, rfl⟩
      · exact .inr (.inl ⟨between, rfl, h'⟩)
    · rcases List.cons_eq_append_iff.1 htail with ⟨rfl, h'⟩ | ⟨between, rfl, h'⟩
      · cases h'
        exact .inl ⟨List.append_nil xs', rfl⟩
      · exact .inr (.inr ⟨between, rfl, h'⟩)
  · rintro (⟨rfl, rfl⟩ | ⟨between, rfl, rfl⟩ | ⟨between, rfl, rfl⟩) <;> simp

variable [DecidableEq α]

theorem splitOn_ne_nil (mark : α) (cs : List α) : splitOn mark cs ≠ [] := by
  cases cs with
  | nil => simp [splitOn]
  | cons c cs =>
    rw [splitOn]
    split
    · simp
    · split <;> simp

/-- The pieces with the marks between them are the whole. -/
theorem intercalate_splitOn (mark : α) (cs : List α) :
    [mark].intercalate (splitOn mark cs) = cs := by
  induction cs with
  | nil => rfl
  | cons c cs ih =>
    rw [splitOn]
    match hs : splitOn mark cs with
    | [] => exact absurd hs (splitOn_ne_nil mark cs)
    | piece :: pieces =>
      rw [hs] at ih
      split
      · next hc => rw [List.intercalate_cons_cons, ih, hc]; rfl
      · cases pieces with
        | nil => simpa using ih
        | cons => simpa [List.intercalate_cons_cons] using ih

theorem splitOn_injective (mark : α) : Function.Injective (splitOn mark) := by
  intro cs cs' h
  rw [← intercalate_splitOn mark cs, h, intercalate_splitOn]

/-- Without a mark there is one piece. -/
theorem splitOn_of_not_mem {mark : α} {cs : List α} (h : mark ∉ cs) : splitOn mark cs = [cs] := by
  induction cs with
  | nil => rfl
  | cons c cs ih =>
    rw [List.mem_cons, not_or] at h
    rw [splitOn, if_neg fun hc => h.1 hc.symm, ih h.2]

/-- No mark is in a piece. -/
theorem not_mem_of_mem_splitOn {mark : α} {cs piece : List α} (h : piece ∈ splitOn mark cs) :
    mark ∉ piece := by
  induction cs generalizing piece with
  | nil =>
    rw [splitOn, List.mem_singleton] at h
    rw [h]
    exact List.not_mem_nil
  | cons c cs ih =>
    rw [splitOn] at h
    split at h
    · rcases List.mem_cons.1 h with rfl | h
      · exact List.not_mem_nil
      · exact ih h
    · next hc =>
      match hs : splitOn mark cs with
      | [] => exact absurd hs (splitOn_ne_nil mark cs)
      | first :: pieces =>
        rw [hs] at h ih
        rcases List.mem_cons.1 h with rfl | h
        · rw [List.mem_cons, not_or]
          exact ⟨fun hmark => hc hmark.symm, ih List.mem_cons_self⟩
        · exact ih (List.mem_cons_of_mem _ h)

/-- The pieces on either side of a mark. -/
theorem splitOn_append (mark : α) (cs cs' : List α) :
    splitOn mark (cs ++ mark :: cs') = splitOn mark cs ++ splitOn mark cs' := by
  induction cs with
  | nil => simp [splitOn]
  | cons c cs ih =>
    rw [List.cons_append, splitOn, splitOn, ih]
    match hs : splitOn mark cs with
    | [] => exact absurd hs (splitOn_ne_nil mark cs)
    | piece :: pieces => split <;> rfl

/-- The sides of the first mark: there is none in what stands before it. -/
theorem splitFirst_eq_some_iff {mark : α} {cs before after : List α} :
    splitFirst mark cs = some (before, after) ↔ mark ∉ before ∧ cs = before ++ mark :: after := by
  induction cs generalizing before with
  | nil => simp [splitFirst]
  | cons c cs ih =>
    rw [splitFirst]
    split
    · next hc =>
      subst hc
      cases before <;> grind
    · next hc =>
      rw [Option.map_eq_some_iff]
      constructor
      · rintro ⟨⟨before, after⟩, hsplit, heq⟩
        cases heq
        obtain ⟨hmark, rfl⟩ := ih.1 hsplit
        exact ⟨List.not_mem_cons_of_ne_of_not_mem (Ne.symm hc) hmark, rfl⟩
      · rintro ⟨hmark, heq⟩
        cases before with
        | nil =>
          cases heq
          exact absurd rfl hc
        | cons b before =>
          cases heq
          exact ⟨(before, after), ih.2 ⟨fun h => hmark (.tail _ h), rfl⟩, rfl⟩

/-- There are no sides exactly if there is no mark. -/
theorem splitFirst_eq_none_iff {mark : α} {cs : List α} :
    splitFirst mark cs = none ↔ mark ∉ cs := by
  induction cs with
  | nil => simp [splitFirst]
  | cons c cs ih =>
    rw [splitFirst, List.mem_cons, not_or]
    split
    · next hc => simp [hc]
    · next hc => rw [Option.map_eq_none_iff, ih, and_iff_right (Ne.symm hc)]

/-- A text holds what stands in it. -/
theorem contains_append (before mark after : List α) :
    contains mark (before ++ (mark ++ after)) := by
  rw [contains]
  induction before with
  | nil =>
    cases mark with
    | nil => cases after <;> simp [splitFirstOf]
    | cons c mark => simp [splitFirstOf]
  | cons c before ih =>
    rw [List.cons_append, splitFirstOf]
    split
    · rfl
    · rwa [Option.isSome_map]

end NodePki.Text
