import Mathlib.Data.List.Forall2
import NodePki.CommandLine.Run
import NodePki.Proofs.Der.Reader
import NodePki.Proofs.Text.Split

/-!
# Labels from the command line

A text is taken for a label if its first equals sign stands behind a key; what stands behind the sign is
the value, whatever it is (`CommandLine.parseLabel_eq_ok_iff`). Of several values for one key the last
one counts (`CommandLine.get?_labelMap_iff`), as in any map that is made of a list
(`Dict.get?_ofList_iff`). The labels are in the order of the arguments
(`CommandLine.Reading.all_labels`).
-/

namespace NodePki

/-! ### The last of several -/

section LastGives

variable {α α' β : Type} {gives : α → β → Prop} {gives' : α' → β → Prop} {a : α} {l : List α} {b : β}

/-- An element of a list gives `b`, and no later one gives anything. -/
def LastGives (gives : α → β → Prop) (l : List α) (b : β) : Prop :=
  ∃ before a after, l = before ++ a :: after ∧ gives a b ∧ ∀ later ∈ after, ∀ b', ¬ gives later b'

theorem not_lastGives_nil : ¬ LastGives gives [] b := by
  rintro ⟨before, a, after, heq, -⟩
  simp at heq

theorem lastGives_cons_iff : LastGives gives (a :: l) b ↔
    LastGives gives l b ∨ gives a b ∧ ∀ later ∈ l, ∀ b', ¬ gives later b' := by
  constructor
  · rintro ⟨before, x, after, heq, hgives, hlater⟩
    obtain ⟨rfl, hcons⟩ | ⟨before, rfl, rfl⟩ := List.cons_eq_append_iff.1 heq
    · cases hcons
      exact .inr ⟨hgives, hlater⟩
    · exact .inl ⟨before, x, after, rfl, hgives, hlater⟩
  · rintro (⟨before, x, after, rfl, hgives, hlater⟩ | ⟨hgives, hlater⟩)
    · exact ⟨a :: before, x, after, rfl, hgives, hlater⟩
    · exact ⟨[], a, l, rfl, hgives, hlater⟩

/-- There is a last one if there is any. -/
theorem exists_lastGives_iff : (∃ b, LastGives gives l b) ↔ ∃ a ∈ l, ∃ b, gives a b := by
  induction l with
  | nil => simp [not_lastGives_nil]
  | cons a l ih =>
    simp only [lastGives_cons_iff, exists_or, exists_and_right, ih]
    grind

/-- What is given last depends on nothing but what each element gives. -/
theorem lastGives_iff_of_forall₂ {l' : List α'}
    (h : List.Forall₂ (fun a a' => ∀ b, gives a b ↔ gives' a' b) l l') :
    LastGives gives l b ↔ LastGives gives' l' b := by
  induction h generalizing b with
  | nil => exact iff_of_false not_lastGives_nil not_lastGives_nil
  | @cons a a' l l' head _ ih =>
    have hlater : (∀ later ∈ l, ∀ b', ¬ gives later b') ↔ ∀ later ∈ l', ∀ b', ¬ gives' later b' := by
      have hnone := not_congr (exists_congr fun b' => ih (b := b'))
      simpa only [exists_lastGives_iff, not_exists, not_and] using hnone
    rw [lastGives_cons_iff, lastGives_cons_iff, ih, head, hlater]

end LastGives

/-- In the map of a list a key has the value of its last entry. -/
theorem Dict.get?_ofList_iff {α β : Type} [DecidableEq α] {l : List (α × β)} {k : α} {b : β} :
    (ofList l).get? k = some b ↔ LastGives (fun e b => e = (k, b)) l b := by
  -- whatever the map is to which the entries are added
  suffices ∀ d : Dict α β, (l.foldl (fun d e => d.insert e.1 e.2) d).get? k = some b ↔
      LastGives (fun e b => e = (k, b)) l b ∨
        d.get? k = some b ∧ ∀ later ∈ l, ∀ b', later ≠ (k, b') by
    simpa [ofList] using this empty
  induction l with
  | nil => simp [not_lastGives_nil]
  | cons e l ih =>
    intro d
    rw [List.foldl_cons, ih, get?_insert, lastGives_cons_iff]
    grind

namespace CommandLine

/-! ### One label -/

/-- A text writes a key, an equals sign and a value. There is no equals sign in the key. -/
def Assigns (key text value : String) : Prop :=
  '=' ∉ key.toList ∧ text = key ++ "=" ++ value

variable {key text value complaint : String}

/-- Key and value are the sides of the first equals sign. -/
theorem assigns_iff : Assigns key text value ↔
    Text.splitFirst '=' text.toList = some (key.toList, value.toList) := by
  rw [Text.splitFirst_eq_some_iff, Assigns, ← String.toList_inj]
  simp

/-- A text is a label if there is a key before its first equals sign. -/
theorem parseLabel_eq_ok_iff :
    parseLabel text = .ok (key, value) ↔ key ≠ "" ∧ Assigns key text value := by
  rw [assigns_iff, parseLabel]
  cases Text.splitFirst '=' text.toList with
  | none => simp
  | some sides =>
    obtain ⟨before, after⟩ := sides
    constructor
    · intro h
      dsimp only at h
      split at h
      · cases h
      · next hempty =>
        cases h
        simpa using hempty
    · rintro ⟨hkey, h⟩
      cases h
      have hempty : ¬ key.toList.isEmpty := by simpa using hkey
      dsimp only
      rw [if_neg hempty, String.ofList_toList, String.ofList_toList]

/-- Any other text is answered with what was expected. -/
theorem parseLabel_eq_error_iff : parseLabel text = .error complaint ↔
    ('=' ∉ text.toList ∨ text.toList.head? = some '=') ∧
      complaint = s!"expected KEY=VALUE, got {Quoted.quote text}" := by
  rw [parseLabel]
  cases hsplit : Text.splitFirst '=' text.toList with
  | none =>
    have hnone := Text.splitFirst_eq_none_iff.1 hsplit
    simp [hnone, eq_comm]
  | some sides =>
    obtain ⟨before, after⟩ := sides
    obtain ⟨hmark, htext⟩ := Text.splitFirst_eq_some_iff.1 hsplit
    rw [htext]
    cases before with
    | nil => simp [eq_comm]
    | cons c before =>
      have hne : c ≠ '=' := fun hc => hmark (hc ▸ List.mem_cons_self)
      simp [hne]

/-- A text gives a value to one key at most, and only one. -/
theorem Assigns.unique {key' value' : String} (h : Assigns key text value)
    (h' : Assigns key' text value') : key = key' ∧ value = value' := by
  rw [assigns_iff] at h h'
  rw [h, Option.some.injEq, Prod.mk.injEq, String.toList_inj, String.toList_inj] at h'
  exact h'

/-! ### All labels -/

variable {texts : List String} {labels : List (String × String)}

/-- A key has the value that the last text with this key gives it. -/
theorem get?_labelMap_iff (accepted : texts.mapM parseLabel = .ok labels) :
    (labelMap labels).get? key = some value ↔ LastGives (Assigns key) texts value := by
  rw [labelMap, Dict.get?_ofList_iff]
  refine (lastGives_iff_of_forall₂ ?_).symm
  induction texts generalizing labels with
  | nil =>
    cases accepted
    exact .nil
  | cons text texts ih =>
    rw [List.mapM_cons] at accepted
    obtain ⟨⟨key', value'⟩, hlabel, accepted⟩ := bind_eq_ok_iff.1 accepted
    obtain ⟨rest, hrest, hlabels⟩ := bind_eq_ok_iff.1 accepted
    cases hlabels
    have hassigns := (parseLabel_eq_ok_iff.1 hlabel).2
    refine .cons (fun value => ⟨fun h => ?_, fun h => ?_⟩) (ih hrest)
    · obtain ⟨rfl, rfl⟩ := hassigns.unique h
      rfl
    · cases h
      exact hassigns

/-! ### From the arguments -/

namespace Reading

variable {r : Reading}

/-- The option is given as an argument of its own. -/
def labelArgument (text : String) : String := "--label=" ++ text

theorem shape_labelArgument (text : String) :
    Shape.of (labelArgument text) = .long "label".toList (some text.toList) := by
  rw [Shape.of, labelArgument, String.toList_append]
  rfl

/-- One label more, if it is one. -/
theorem next_labelArgument (level : r.level = .ensure) (settled : r.pending = none) (text : String) :
    r.next (labelArgument text) = match parseLabel text with
      | .ok label => .ok { r with labels := label :: r.labels }
      | .error complaint => .error (.label complaint) := by
  have hflag : r.level.long? (String.ofList "label".toList) = some .label := by
    rw [level]
    rfl
  have hsettle : r.settle = .ok r := by rw [settle, settled]
  rw [next, shape_labelArgument]
  simp only [hflag]
  rw [option, if_pos (show Flag.label.takesValue = true from rfl), hsettle]
  show r.record .label (String.ofList text.toList) = _
  rw [String.ofList_toList]
  unfold record
  cases parseLabel text <;> rfl

/-- Labels are read in their order, up to the first argument that is none. -/
theorem all_labels (level : r.level = .ensure) (settled : r.pending = none) (rest : List String) :
    r.all (texts.map labelArgument ++ rest) = match texts.mapM parseLabel with
      | .ok labels => all { r with labels := labels.reverse ++ r.labels } rest
      | .error complaint => .error (.label complaint) := by
  induction texts generalizing r with
  | nil => rfl
  | cons text texts ih =>
    have hshape : Shape.of (labelArgument text) ≠ .escape := by
      rw [shape_labelArgument]
      exact nofun
    rw [List.map_cons, List.cons_append, all, if_neg hshape, next_labelArgument level settled,
      List.mapM_cons]
    cases parseLabel text with
    | error complaint => rfl
    | ok label =>
      show all { r with labels := label :: r.labels } (texts.map labelArgument ++ rest) = _
      rw [ih (r := { r with labels := label :: r.labels }) level settled]
      cases texts.mapM parseLabel with
      | error complaint => rfl
      | ok labels =>
        simp [bind, Except.bind, pure, Except.pure]

end Reading

end CommandLine

end NodePki
