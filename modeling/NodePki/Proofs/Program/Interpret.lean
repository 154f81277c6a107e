import NodePki.Proofs.Program.Run

/-!
# Runs of interpreted programs

A program whose questions are answered by programs of their own. A run of the whole is a run of the
program in which each question was carried out by a part of the whole (`Leads.exists_carried`), so
what the program asks can be told from how it is answered.

However questions are answered, a program comes to its end (`exists_leads`).
-/

namespace NodePki

/-- The exchange with the second of two, if it is one. -/
def Exchange.right? {σ τ : Signature} : Exchange (σ.sum τ) → Option (Exchange τ)
  | ⟨.inl _, _⟩ => none
  | ⟨.inr op, answer⟩ => some ⟨op, answer⟩

namespace Trace

variable {σ τ : Signature}

/-- The exchanges with the second of two. -/
def right (t : Trace (σ.sum τ)) : Trace τ := t.filterMap Exchange.right?

theorem right_append (t u : Trace (σ.sum τ)) : right (t ++ u) = right t ++ right u :=
  List.filterMap_append

theorem right_map_right (t : Trace τ) :
    right (t.map (Exchange.right : _ → Exchange (σ.sum τ))) = t := by
  simp [right, List.filterMap_map, Function.comp_def, Exchange.right?, Exchange.right]

end Trace

namespace Program

variable {σ τ : Signature} {α β : Type} {t : Trace τ} {u : Trace σ}

/-! ### The parts of a run -/

/-- A run of a program that is finished. -/
theorem leads_done_iff {a b : α} : Leads (.done a) u (.done b) ↔ u = [] ∧ b = a := by
  constructor
  · rintro ⟨⟩
    exact ⟨rfl, rfl⟩
  · rintro ⟨rfl, rfl⟩
    exact .refl _

/-- A run that begins with a question. -/
theorem leads_ask_iff {op : σ.Op} {next : σ.Answer op → Program σ α} {a : α} :
    Leads (.ask op next) u (.done a) ↔
      ∃ answer u', u = ⟨op, answer⟩ :: u' ∧ Leads (next answer) u' (.done a) := by
  constructor
  · rintro ⟨⟩
    next answer u' rest => exact ⟨_, _, rfl, rest⟩
  · rintro ⟨answer, u', rfl, rest⟩
    exact .ask rest

/-- A run of one program after another ends the first before it begins the second. -/
theorem Leads.exists_of_bind {p : Program σ α} {f : α → Program σ β} {b : β}
    (h : Leads (p.bind f) u (.done b)) :
    ∃ u₁ a u₂, u = u₁ ++ u₂ ∧ Leads p u₁ (.done a) ∧ Leads (f a) u₂ (.done b) := by
  induction p generalizing u with
  | done a => exact ⟨[], a, u, rfl, .refl _, h⟩
  | ask op next ih =>
    cases h with
    | ask rest =>
      obtain ⟨u₁, a, u₂, rfl, hp, hf⟩ := ih _ rest
      exact ⟨_ :: u₁, a, u₂, rfl, .ask hp, hf⟩

/-- A run of one part after another that may fail. -/
theorem Leads.exists_of_try {ε : Type} {x : ExceptT ε (Program σ) α}
    {f : α → ExceptT ε (Program σ) β} {r : Except ε β}
    (h : Leads (x >>= f : ExceptT ε (Program σ) β) u (.done r)) :
    (∃ e, Leads x u (.done (.error e)) ∧ r = .error e) ∨
      ∃ a u₁ u₂, u = u₁ ++ u₂ ∧ Leads x u₁ (.done (.ok a)) ∧ Leads (f a) u₂ (.done r) := by
  obtain ⟨u₁, result, u₂, rfl, hx, hf⟩ := Leads.exists_of_bind h
  cases result with
  | ok a => exact .inr ⟨a, u₁, u₂, rfl, hx, hf⟩
  | error e =>
    cases hf
    exact .inl ⟨e, by rwa [List.append_nil], rfl⟩

/-- A run in which both parts succeed. -/
theorem Leads.exists_of_try_ok {ε : Type} {x : ExceptT ε (Program σ) α}
    {f : α → ExceptT ε (Program σ) β} {b : β}
    (h : Leads (x >>= f : ExceptT ε (Program σ) β) u (.done (.ok b))) :
    ∃ a u₁ u₂, u = u₁ ++ u₂ ∧ Leads x u₁ (.done (.ok a)) ∧ Leads (f a) u₂ (.done (.ok b)) := by
  obtain ⟨_, _, hfailed⟩ | parts := Leads.exists_of_try h
  · cases hfailed
  · exact parts

/-- A run of a program that asks the second of two only. -/
theorem Leads.exists_of_right {p : Program τ α} {u : Trace (σ.sum τ)} {a : α}
    (h : Leads (p.right : Program (σ.sum τ) α) u (.done a)) :
    ∃ t : Trace τ, u = t.map Exchange.right ∧ Leads p t (.done a) := by
  induction p generalizing u with
  | done b =>
    cases h
    exact ⟨[], rfl, .refl _⟩
  | ask op next ih =>
    cases h with
    | @ask _ _ answer _ _ rest =>
      obtain ⟨t, rfl, hp⟩ := ih _ rest
      exact ⟨⟨op, answer⟩ :: t, rfl, .ask hp⟩

/-- A run of a single question to the first of two. -/
theorem leads_perform_left_iff {op : σ.Op} {answer : σ.Answer op} {u : Trace (σ.sum τ)} :
    Leads ((perform σ op).left : Program (σ.sum τ) (σ.Answer op)) u (.done answer) ↔
      u = [⟨.inl op, answer⟩] := by
  constructor
  · intro h
    cases h with
    | ask rest =>
      cases rest
      rfl
  · rintro rfl
    exact .ask (.refl _)

/-! ### Questions carried out by programs -/

/-- The questions of `u` were carried out in `t`, one after the other, each by its program. -/
inductive Carried (handle : (op : σ.Op) → Program τ (σ.Answer op)) : Trace σ → Trace τ → Prop
  | nil : Carried handle [] []
  | cons {e : Exchange σ} {u : Trace σ} {t t' : Trace τ}
      (first : Leads (handle e.op) t (.done e.answer)) (rest : Carried handle u t') :
      Carried handle (e :: u) (t ++ t')

variable {handle : (op : σ.Op) → Program τ (σ.Answer op)}

/-- A run of an interpreted program is one of the program, and carries out what it asks. -/
theorem Leads.exists_carried {p : Program σ α} {a : α}
    (h : Leads (p.interpret handle) t (.done a)) :
    ∃ u, Carried handle u t ∧ Leads p u (.done a) := by
  induction p generalizing t with
  | done b =>
    cases h
    exact ⟨[], .nil, .refl _⟩
  | ask op next ih =>
    obtain ⟨t₁, answer, t₂, rfl, hfirst, hrest⟩ := Leads.exists_of_bind h
    obtain ⟨u, hcarried, hp⟩ := ih answer hrest
    exact ⟨⟨op, answer⟩ :: u, .cons hfirst hcarried, .ask hp⟩

/-! ### However questions are answered -/

/-- Each question was answered as `answers` says, by what had been exchanged before. -/
def AnsweredBy (answers : Trace σ → (op : σ.Op) → σ.Answer op) (u : Trace σ) : Prop :=
  ∀ before e after, u = before ++ e :: after → e.answer = answers before e.op

/-- Whatever it is answered, a program has a run to an end. -/
theorem exists_leads (answers : Trace σ → (op : σ.Op) → σ.Answer op) (p : Program σ α) :
    ∃ u a, Leads p u (.done a) ∧ AnsweredBy answers u := by
  induction p generalizing answers with
  | done a => exact ⟨[], a, .refl _, fun before e after h => by simp at h⟩
  | ask op next ih =>
    obtain ⟨u, a, hrun, hanswered⟩ :=
      ih (answers [] op) fun before => answers (⟨op, answers [] op⟩ :: before)
    refine ⟨_, a, .ask hrun, fun before e after h => ?_⟩
    rcases List.cons_eq_append_iff.1 h with ⟨rfl, hfirst⟩ | ⟨before', rfl, hrest⟩
    · cases hfirst
      rfl
    · exact hanswered before' e after hrest

end Program

end NodePki
