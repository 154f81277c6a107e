import NodePki.Proofs.Program.Run

/-!
# Programs side by side

Clients, each with a program, ask one world, whose replies `Replies w e w'` says: in the world `w`
the exchange `e` may take place and leave the world `w'`. An `Interleaving` lets one client after
another ask one thing, in any order. Its history is looked at in two ways:

* as exchanges that the world went through (`Interleaving.happens`), of which each left its mark on
  the world (`Happens.shows`) and found the marks of those before it (`Happens.pairwise`);
* as one run of each client (`Interleaving.leads`).
-/

namespace NodePki

variable {σ : Signature} {ω α : Type} {Replies : ω → Exchange σ → ω → Prop}

/-- The world goes through exchanges, one after another. -/
inductive Happens (Replies : ω → Exchange σ → ω → Prop) : ω → Trace σ → ω → Prop
  | nil (w : ω) : Happens Replies w [] w
  | cons {w w₁ w' : ω} {e : Exchange σ} {t : Trace σ} (first : Replies w e w₁)
      (rest : Happens Replies w₁ t w') : Happens Replies w (e :: t) w'

namespace Happens

variable {w w₁ w' : ω} {t u : Trace σ}

theorem cons_iff {e : Exchange σ} :
    Happens Replies w (e :: t) w' ↔ ∃ w₁, Replies w e w₁ ∧ Happens Replies w₁ t w' := by
  constructor
  · rintro ⟨⟩
    next first rest => exact ⟨_, first, rest⟩
  · rintro ⟨w₁, first, rest⟩
    exact .cons first rest

theorem append (h : Happens Replies w t w₁) (h' : Happens Replies w₁ u w') :
    Happens Replies w (t ++ u) w' := by
  induction h with
  | nil => exact h'
  | cons first _ ih => exact .cons first (ih h')

/-- What every exchange keeps is kept. -/
theorem keeps {P : ω → Prop} (hP : ∀ {w e w'}, Replies w e w' → P w → P w')
    (h : Happens Replies w t w') (hw : P w) : P w' := by
  induction h with
  | nil => exact hw
  | cons first _ ih => exact ih (hP first hw)

variable {Shows : ω → Exchange σ → Prop}

/-- If every exchange leaves a mark that no exchange takes away, then at the end there are the marks
of all. -/
theorem shows (hmark : ∀ {w e w'}, Replies w e w' → Shows w' e)
    (hkeep : ∀ {w e w' e'}, Replies w e w' → Shows w e' → Shows w' e')
    (h : Happens Replies w t w') : ∀ e ∈ t, Shows w' e := by
  induction h with
  | nil => intro e he; cases he
  | cons first rest ih =>
    intro e he
    rcases List.mem_cons.1 he with rfl | he
    · exact rest.keeps (P := fun w => Shows w e) hkeep (hmark first)
    · exact ih e he

/-- Of two exchanges the later one took place in a world with the mark of the earlier one. -/
theorem pairwise (hmark : ∀ {w e w'}, Replies w e w' → Shows w' e)
    (hkeep : ∀ {w e w' e'}, Replies w e w' → Shows w e' → Shows w' e')
    (h : Happens Replies w t w') :
    t.Pairwise fun e e' => ∃ w w', Shows w e ∧ Replies w e' w' := by
  have later : ∀ {w t w'} e, Happens Replies w t w' → Shows w e →
      ∀ e' ∈ t, ∃ w w', Shows w e ∧ Replies w e' w' := by
    intro w t w' e h hw
    induction h with
    | nil => intro e' he'; cases he'
    | cons first _ ih =>
      intro e' he'
      rcases List.mem_cons.1 he' with rfl | he'
      · exact ⟨_, _, hw, first⟩
      · exact ih (hkeep first hw) e' he'
  induction h with
  | nil => exact .nil
  | @cons _ _ _ e _ first rest ih => exact .cons (later e rest (hmark first)) ih

end Happens

/-- Exchanges with the numbers of the clients who asked. -/
abbrev History (σ : Signature) := List (Nat × Exchange σ)

namespace History

/-- The exchanges of all clients. -/
def all (h : History σ) : Trace σ := h.map Prod.snd

/-- The exchanges of one client. -/
def client (h : History σ) (i : Nat) : Trace σ := (h.filter (·.1 = i)).map Prod.snd

theorem client_cons (i j : Nat) (e : Exchange σ) (h : History σ) :
    client ((j, e) :: h) i = if j = i then e :: client h i else client h i := by
  by_cases hj : j = i <;> simp [client, hj]

/-- A client's exchanges are among those of all, in their order. -/
theorem client_sublist (h : History σ) (i : Nat) : (h.client i).Sublist h.all :=
  List.filter_sublist.map _

theorem mem_all_of_mem_client {h : History σ} {i : Nat} {e : Exchange σ} (he : e ∈ h.client i) :
    e ∈ h.all :=
  (h.client_sublist i).subset he

/-- Every exchange is one of some client. -/
theorem exists_mem_client {h : History σ} {e : Exchange σ} (he : e ∈ h.all) :
    ∃ i, e ∈ h.client i := by
  obtain ⟨⟨i, _⟩, hm, rfl⟩ := List.mem_map.1 he
  exact ⟨i, List.mem_map.2 ⟨_, List.mem_filter.2 ⟨hm, by simp⟩, rfl⟩⟩

end History

/-- Clients ask in any order. A history leads from a world and what each client has to do to a world
and what each has left to do. -/
inductive Interleaving (Replies : ω → Exchange σ → ω → Prop) :
    ω → List (Program σ α) → History σ → ω → List (Program σ α) → Prop
  | nil (w : ω) (cs : List (Program σ α)) : Interleaving Replies w cs [] w cs
  | cons {w w₁ w' : ω} {cs cs' : List (Program σ α)} {i : Nat} {op : σ.Op}
      {next : σ.Answer op → Program σ α} {answer : σ.Answer op} {h : History σ}
      (turn : cs[i]? = some (.ask op next)) (reply : Replies w ⟨op, answer⟩ w₁)
      (rest : Interleaving Replies w₁ (cs.set i (next answer)) h w' cs') :
      Interleaving Replies w cs ((i, ⟨op, answer⟩) :: h) w' cs'

namespace Interleaving

variable {w w₁ w' : ω} {cs cs₁ cs' : List (Program σ α)} {h h' : History σ}

theorem append (hr : Interleaving Replies w cs h w₁ cs₁)
    (hr' : Interleaving Replies w₁ cs₁ h' w' cs') :
    Interleaving Replies w cs (h ++ h') w' cs' := by
  induction hr with
  | nil => exact hr'
  | cons turn reply _ ih => exact .cons turn reply (ih hr')

theorem happens (hr : Interleaving Replies w cs h w' cs') : Happens Replies w h.all w' := by
  induction hr with
  | nil => exact .nil _
  | cons _ reply _ ih => exact .cons reply ih

theorem length_eq (hr : Interleaving Replies w cs h w' cs') : cs'.length = cs.length := by
  induction hr with
  | nil => rfl
  | cons _ _ _ ih => rw [ih, List.length_set]

/-- Each client has gone through a run of its own. -/
theorem leads (hr : Interleaving Replies w cs h w' cs') {i : Nat} {p : Program σ α}
    (hp : cs[i]? = some p) : ∃ q, cs'[i]? = some q ∧ p.Leads (h.client i) q := by
  induction hr generalizing p with
  | nil => exact ⟨p, hp, .refl p⟩
  | @cons _ _ _ cs cs' j op next answer h turn _ _ ih =>
    rw [History.client_cons]
    by_cases hj : j = i
    · subst hj
      rw [hp] at turn
      cases turn
      have hi : j < cs.length := (List.getElem?_eq_some_iff.1 hp).1
      obtain ⟨q, hq, hl⟩ := ih (p := next answer) (by simp [hi])
      exact ⟨q, hq, by rw [if_pos rfl]; exact .ask hl⟩
    · obtain ⟨q, hq, hl⟩ := ih (p := p) (by rw [List.getElem?_set_ne hj]; exact hp)
      exact ⟨q, hq, by rwa [if_neg hj]⟩

/-- The result of a client is one of its own. -/
theorem ends (hr : Interleaving Replies w cs h w' cs') {i : Nat} {p : Program σ α} {a : α}
    (hp : cs[i]? = some p) (ha : cs'[i]? = some (.done a)) : p.Leads (h.client i) (.done a) := by
  obtain ⟨q, hq, hl⟩ := hr.leads hp
  rw [ha] at hq
  cases hq
  exact hl

/-- A client that is done had a program, of which this is a run. -/
theorem exists_ends (hr : Interleaving Replies w cs h w' cs') {i : Nat} {a : α}
    (ha : cs'[i]? = some (.done a)) : ∃ p, cs[i]? = some p ∧ p.Leads (h.client i) (.done a) := by
  have hi : i < cs.length := hr.length_eq ▸ (List.getElem?_eq_some_iff.1 ha).1
  exact ⟨cs[i], List.getElem?_eq_getElem hi, hr.ends (List.getElem?_eq_getElem hi) ha⟩

/-- Nobody asks but the clients. -/
theorem exists_client (hr : Interleaving Replies w cs h w' cs') {i : Nat} {e : Exchange σ}
    (he : e ∈ h.client i) : ∃ p, cs[i]? = some p := by
  induction hr with
  | nil => cases he
  | @cons _ _ _ cs cs' j op next answer h turn _ _ ih =>
    rw [History.client_cons] at he
    by_cases hj : j = i
    · exact ⟨_, hj ▸ turn⟩
    · rw [if_neg hj] at he
      obtain ⟨p, hp⟩ := ih he
      exact ⟨p, by rwa [List.getElem?_set_ne hj] at hp⟩

/-- Everything is asked by a client in its run. -/
theorem asked (hr : Interleaving Replies w cs h w' cs') {e : Exchange σ} (he : e ∈ h.all) :
    ∃ i p t u q, cs[i]? = some p ∧ h.client i = t ++ e :: u ∧ p.Leads (t ++ e :: u) q := by
  obtain ⟨i, hi⟩ := History.exists_mem_client he
  obtain ⟨p, hp⟩ := hr.exists_client hi
  obtain ⟨q, -, hq⟩ := hr.leads hp
  obtain ⟨t, u, htu⟩ := List.append_of_mem hi
  exact ⟨i, p, t, u, q, hp, htu, htu ▸ hq⟩

/-- One client alone goes through a run. -/
theorem alone {p q : Program σ α} {t : Trace σ} (hl : p.Leads t q) {i : Nat}
    (hw : Happens Replies w t w') (hp : cs[i]? = some p) :
    Interleaving Replies w cs (t.map (i, ·)) w' (cs.set i q) := by
  induction hl generalizing w cs with
  | refl p =>
    cases hw
    obtain ⟨hi, rfl⟩ := List.getElem?_eq_some_iff.1 hp
    rw [List.set_getElem_self]
    exact .nil _ _
  | @ask op next answer t q _ ih =>
    cases hw with
    | cons first rest =>
      have hi : i < cs.length := (List.getElem?_eq_some_iff.1 hp).1
      have hset : (cs.set i (next answer))[i]? = some (next answer) := by simp [hi]
      have := ih rest hset
      rw [List.set_set] at this
      exact .cons hp first this

end Interleaving

end NodePki
