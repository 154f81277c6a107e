/-!
# Dictionaries

Finite maps as their entries in the order of first insertion. No key occurs twice:

* `get?_insert`: an insertion answers for its key and leaves the others;
* `mem_keys_iff`: the keys are those with a value.
-/

namespace NodePki

universe u v

/-- A finite map as its list of entries. -/
structure Dict (α : Type u) (β : Type v) where
  /-- The entries in order of first insertion. -/
  entries : List (α × β)
  /-- No key stands twice. -/
  nodup : (entries.map Prod.fst).Nodup
  deriving DecidableEq, Repr

namespace Dict

variable {α : Type u} {β : Type v}

/-- The map without entries. -/
def empty : Dict α β := ⟨[], List.nodup_nil⟩

instance : Inhabited (Dict α β) := ⟨empty⟩

/-- The keys, in order of first insertion. -/
def keys (d : Dict α β) : List α := d.entries.map Prod.fst

/-- The number of entries. -/
def size (d : Dict α β) : Nat := d.entries.length

/-- Whether there is no entry. -/
def isEmpty (d : Dict α β) : Bool := d.entries.isEmpty

variable [DecidableEq α]

/-- The value that a list of entries gives for a key. -/
def find (k : α) : List (α × β) → Option β
  | [] => none
  | (a, b) :: rest => if a = k then some b else find k rest

/-- The value of a key. -/
def get? (d : Dict α β) (k : α) : Option β := find k d.entries

/-- Whether a key has a value. -/
def contains (d : Dict α β) (k : α) : Bool := (d.get? k).isSome

/-- Sets the value of a key in a list of entries, at its place or at the end. -/
def put (k : α) (b : β) : List (α × β) → List (α × β)
  | [] => [(k, b)]
  | (a, c) :: rest => if a = k then (k, b) :: rest else (a, c) :: put k b rest

theorem mem_map_fst_put {k a : α} {b : β} (l : List (α × β)) :
    a ∈ (put k b l).map Prod.fst ↔ a = k ∨ a ∈ l.map Prod.fst := by
  induction l with
  | nil => simp [put]
  | cons x l ih => by_cases h : x.1 = k <;> grind [put]

theorem nodup_put {k : α} {b : β} {l : List (α × β)} (h : (l.map Prod.fst).Nodup) :
    ((put k b l).map Prod.fst).Nodup := by
  induction l with
  | nil => simp [put]
  | cons x l ih =>
    rw [List.map_cons, List.nodup_cons] at h
    by_cases hk : x.1 = k
    · rw [put, if_pos hk, List.map_cons, List.nodup_cons, ← hk]
      exact h
    · rw [put, if_neg hk, List.map_cons, List.nodup_cons, mem_map_fst_put]
      exact ⟨fun hx => hx.elim hk h.1, ih h.2⟩

/-- Sets the value of a key; a value it had is replaced. -/
def insert (d : Dict α β) (k : α) (b : β) : Dict α β := ⟨put k b d.entries, nodup_put d.nodup⟩

/-- The map of a list of entries; of two with one key the later counts. -/
def ofList (l : List (α × β)) : Dict α β := l.foldl (fun d e => d.insert e.1 e.2) empty

theorem find_put (k a : α) (b : β) (l : List (α × β)) :
    find a (put k b l) = if a = k then some b else find a l := by
  induction l with
  | nil => grind [put, find]
  | cons x l ih => by_cases h : x.1 = k <;> grind [put, find]

@[simp] theorem get?_empty (k : α) : (empty : Dict α β).get? k = none := rfl

theorem get?_insert (d : Dict α β) (k a : α) (b : β) :
    (d.insert k b).get? a = if a = k then some b else d.get? a :=
  find_put k a b d.entries

@[simp] theorem get?_insert_self (d : Dict α β) (k : α) (b : β) :
    (d.insert k b).get? k = some b := by simp [get?_insert]

theorem get?_insert_of_ne (d : Dict α β) {k a : α} (b : β) (h : a ≠ k) :
    (d.insert k b).get? a = d.get? a := by simp [get?_insert, h]

theorem mem_keys_iff (d : Dict α β) (k : α) : k ∈ d.keys ↔ d.contains k = true := by
  obtain ⟨l, h⟩ := d
  simp only [keys, contains, get?]
  clear h
  induction l with
  | nil => simp [find]
  | cons x l ih => by_cases hx : x.1 = k <;> grind [find]

theorem length_put (k : α) (b : β) (l : List (α × β)) :
    (put k b l).length = if (find k l).isSome then l.length else l.length + 1 := by
  induction l with
  | nil => simp [put, find]
  | cons x l ih => by_cases h : x.1 = k <;> grind [put, find]

/-- The entry of a new key comes last. -/
theorem entries_insert_of_get?_eq_none {d : Dict α β} {k : α} (h : d.get? k = none) (b : β) :
    (d.insert k b).entries = d.entries ++ [(k, b)] := by
  obtain ⟨l, hl⟩ := d
  simp only [get?, insert] at h ⊢
  clear hl
  induction l with
  | nil => rfl
  | cons x l ih => by_cases hx : x.1 = k <;> grind [put, find]

theorem size_insert (d : Dict α β) (k : α) (b : β) :
    (d.insert k b).size = if d.contains k then d.size else d.size + 1 :=
  length_put k b d.entries

end Dict

end NodePki
