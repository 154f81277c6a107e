import NodePki.Program.Basic

/-!
# Runs of programs

A run of a program is the list of its exchanges: what it asked and what it was told. `Leads` says
what is left of a program after some exchanges. `Along` judges all runs of a program at once: each
question, and the result, by the exchanges before it. Judgements compose (`along_bind`), may begin
in the middle of a run (`along_append_iff`), and hold of each single run (`Along.leads`).

`along_right` is the judgement of a part that asks the second of two only, by its own runs, which
`Follows` finds in the whole, and `along_interpret` that of a program whose questions are answered
by programs.
-/

namespace NodePki

/-- A question with its answer. -/
structure Exchange (σ : Signature) where
  op : σ.Op
  answer : σ.Answer op

/-- Questions with their answers, first one first. -/
abbrev Trace (σ : Signature) := List (Exchange σ)

namespace Exchange

variable {σ τ : Signature}

/-- An exchange with the first of two. -/
def left (e : Exchange σ) : Exchange (σ.sum τ) := ⟨.inl e.op, e.answer⟩

/-- An exchange with the second of two. -/
def right (e : Exchange τ) : Exchange (σ.sum τ) := ⟨.inr e.op, e.answer⟩

/-- The exchange with the first of two, if it is one. -/
def left? : Exchange (σ.sum τ) → Option (Exchange σ)
  | ⟨.inl op, answer⟩ => some ⟨op, answer⟩
  | ⟨.inr _, _⟩ => none

end Exchange

namespace Trace

variable {σ τ : Signature}

/-- The exchanges with the first of two. -/
def left (t : Trace (σ.sum τ)) : Trace σ := t.filterMap Exchange.left?

theorem left_append (t u : Trace (σ.sum τ)) : left (t ++ u) = left t ++ left u :=
  List.filterMap_append

theorem left_map_right (t : Trace τ) :
    left (t.map (Exchange.right : _ → Exchange (σ.sum τ))) = [] := by
  simp [left, List.filterMap_map, Function.comp_def, Exchange.left?, Exchange.right]

/-- One more exchange with the first of two. -/
theorem left_ask {t : Trace (σ.sum τ)} {l : Trace σ} (h : t.left = l) (op : σ.Op)
    (answer : σ.Answer op) : left (t ++ [⟨.inl op, answer⟩]) = l ++ [⟨op, answer⟩] := by
  rw [left_append, h]
  rfl

/-- More exchanges with the second of two. -/
theorem left_aside {t : Trace (σ.sum τ)} {l : Trace σ} (h : t.left = l) (u : Trace τ) :
    left (t ++ u.map .right) = l := by
  rw [left_append, h, left_map_right, List.append_nil]

/-- The exchanges with the first of two stand in the whole, in their order. -/
theorem left_sublist (t : Trace (σ.sum τ)) : (t.left.map Exchange.left).Sublist t := by
  induction t with
  | nil => exact .slnil
  | cons e t ih =>
    rcases e with ⟨op | op, answer⟩
    · exact ih.cons_cons _
    · exact ih.cons _

theorem mem_of_mem_left {t : Trace (σ.sum τ)} {e : Exchange σ} (h : e ∈ t.left) : e.left ∈ t :=
  (left_sublist t).subset (List.mem_map_of_mem h)

end Trace

namespace Program

variable {σ τ : Signature} {α β : Type}

/-- What is left of a program after some exchanges. -/
inductive Leads : Program σ α → Trace σ → Program σ α → Prop
  | refl (p : Program σ α) : Leads p [] p
  | ask {op : σ.Op} {next : σ.Answer op → Program σ α} {answer : σ.Answer op} {t : Trace σ}
      {q : Program σ α} (rest : Leads (next answer) t q) :
      Leads (.ask op next) (⟨op, answer⟩ :: t) q

/-- One part of a run after another. -/
theorem Leads.append {p q r : Program σ α} {t u : Trace σ} (h : Leads p t q) (h' : Leads q u r) :
    Leads p (t ++ u) r := by
  induction h with
  | refl => exact h'
  | ask _ ih => exact .ask (ih h')

/-- A run of a first program is one of what it begins. -/
theorem Leads.bind {p q : Program σ α} {t : Trace σ} (h : Leads p t q) (f : α → Program σ β) :
    Leads (p.bind f) t (q.bind f) := by
  induction h with
  | refl => exact .refl _
  | ask _ ih => exact .ask ih

theorem Leads.right {p q : Program τ α} {t : Trace τ} (h : Leads p t q) :
    Leads (p.right : Program (σ.sum τ) α) (t.map Exchange.right) q.right := by
  induction h with
  | refl => exact .refl _
  | ask _ ih => exact .ask ih

/-- Every question of every run satisfies `Ask`, and every result `End`, together with the exchanges
before it; `t` is what came before the program. -/
def Along (Ask : Trace σ → σ.Op → Prop) (End : Trace σ → α → Prop) : Trace σ → Program σ α → Prop
  | t, .done a => End t a
  | t, .ask op next => Ask t op ∧ ∀ answer, Along Ask End (t ++ [⟨op, answer⟩]) (next answer)

variable {Ask Ask' : Trace σ → σ.Op → Prop} {End End' : Trace σ → α → Prop} {t u : Trace σ}

@[simp] theorem along_done (a : α) : Along Ask End t (.done a) ↔ End t a := Iff.rfl

theorem along_ask {op : σ.Op} {next : σ.Answer op → Program σ α} :
    Along Ask End t (.ask op next) ↔
      Ask t op ∧ ∀ answer, Along Ask End (t ++ [⟨op, answer⟩]) (next answer) := Iff.rfl

theorem along_bind {p : Program σ α} {f : α → Program σ β} {End : Trace σ → β → Prop} :
    Along Ask End t (p.bind f) ↔ Along Ask (fun t a => Along Ask End t (f a)) t p := by
  induction p generalizing t with
  | done a => rfl
  | ask op next ih => simp only [ask_bind, along_ask, ih]

theorem Along.mono {p : Program σ α} (h : Along Ask End t p) (hask : ∀ t op, Ask t op → Ask' t op)
    (hend : ∀ t a, End t a → End' t a) : Along Ask' End' t p := by
  induction p generalizing t with
  | done a => exact hend _ _ h
  | ask op next ih => exact ⟨hask _ _ h.1, fun answer => ih answer (h.2 answer)⟩

/-- What came before stands before every result. -/
theorem Along.grows {p : Program σ α} (h : Along Ask End t p) :
    Along Ask (fun u a => t ⊆ u ∧ End u a) t p := by
  induction p generalizing t with
  | done a => exact ⟨List.Subset.refl t, h⟩
  | ask op next ih =>
    refine ⟨h.1, fun answer => (ih answer (h.2 answer)).mono (fun _ _ ask => ask) ?_⟩
    rintro u a ⟨hsub, hend⟩
    exact ⟨List.Subset.trans (List.subset_append_left _ _) hsub, hend⟩

theorem along_true (p : Program σ α) : Along (fun _ _ => True) (fun _ _ => True) t p := by
  induction p generalizing t with
  | done a => trivial
  | ask op next ih => exact ⟨trivial, fun answer => ih answer⟩

/-- What came before may be taken out of the judgement. -/
theorem along_append_iff {p : Program σ α} :
    Along Ask End (t ++ u) p ↔
      Along (fun u op => Ask (t ++ u) op) (fun u a => End (t ++ u) a) u p := by
  induction p generalizing u with
  | done a => rfl
  | ask op next ih => simp only [along_ask, List.append_assoc, ih]

theorem along_iff_nil {p : Program σ α} :
    Along Ask End t p ↔ Along (fun u op => Ask (t ++ u) op) (fun u a => End (t ++ u) a) [] p := by
  rw [← along_append_iff, List.append_nil]

/-- What is left of a program is judged as the program is, after the exchanges that led there. -/
theorem Along.leads {p q : Program σ α} (h : Along Ask End t p) (hq : Leads p u q) :
    Along Ask End (t ++ u) q := by
  induction hq generalizing t with
  | refl => rwa [List.append_nil]
  | @ask op next answer u q _ ih =>
    have := ih (h.2 answer)
    rwa [List.append_assoc] at this

/-- The result of a run. -/
theorem Along.ends {p : Program σ α} {a : α} (h : Along Ask End [] p) (hu : Leads p u (.done a)) :
    End u a := h.leads hu

/-- The questions within a run. -/
theorem Along.asked {p q : Program σ α} {e : Exchange σ} (h : Along Ask End [] p)
    (hq : Leads p (t ++ e :: u) q) : Ask t e.op := by
  suffices ∀ s, Along Ask End s p → Ask (s ++ t) e.op from this [] h
  clear h
  induction t generalizing p with
  | nil =>
    intro s h
    cases hq with
    | ask _ => rw [List.append_nil]; exact h.1
  | cons e' t ih =>
    intro s h
    cases hq with
    | ask rest =>
      have := ih rest _ (h.2 _)
      rwa [List.append_assoc] at this

/-- After one exchange with the first of two, a program that asks the second of two only ran and
came to `a`. -/
def Follows (p : Program τ α) (e : Exchange σ) (t : Trace (σ.sum τ)) (a : α) : Prop :=
  ∃ during after, t = [e.left] ++ during.map .right ++ after ∧ Leads p during (.done a)

theorem Leads.follows {p : Program τ α} {u : Trace τ} {a : α} (h : Leads p u (.done a))
    (e : Exchange σ) : Follows p e ([e.left] ++ u.map .right) a :=
  ⟨u, [], (List.append_nil _).symm, h⟩

theorem Follows.append {p : Program τ α} {e : Exchange σ} {t : Trace (σ.sum τ)} {a : α}
    (h : Follows p e t a) (u : Trace (σ.sum τ)) : Follows p e (t ++ u) a := by
  obtain ⟨during, after, rfl, hp⟩ := h
  exact ⟨during, after ++ u, by simp only [List.append_assoc], hp⟩

/-- A part that asks the second of two only. -/
theorem along_right {p : Program τ α} {t : Trace (σ.sum τ)}
    {Ask : Trace (σ.sum τ) → (σ.sum τ).Op → Prop} {End : Trace (σ.sum τ) → α → Prop}
    (hask : ∀ (u : Trace τ) op, Ask (t ++ u.map Exchange.right) (.inr op))
    (hend : ∀ u a, Leads p u (.done a) → End (t ++ u.map Exchange.right) a) :
    Along Ask End t p.right := by
  induction p generalizing t with
  | done a => simpa [right] using hend [] a (.refl _)
  | ask op next ih =>
    refine ⟨by simpa using hask [] op, fun answer => ih answer (fun u op' => ?_) fun u a hu => ?_⟩
    · simpa [Exchange.right] using hask (⟨op, answer⟩ :: u) op'
    · simpa [Exchange.right] using hend (⟨op, answer⟩ :: u) a (.ask hu)

section Failing

variable {ε : Type} {End : Trace σ → Except ε β → Prop} {f : α → ExceptT ε (Program σ) β}

/-- A part that may fail, and what follows it. -/
theorem along_try {x : ExceptT ε (Program σ) α}
    (h : Along Ask (fun t r => match r with
      | .ok a => Along Ask End t (f a)
      | .error e => End t (.error e)) t x) :
    Along Ask End t (x >>= f : ExceptT ε (Program σ) β) := by
  refine along_bind.2 (Along.mono h (fun _ _ ask => ask) fun t r hr => ?_)
  cases r with
  | ok a => exact hr
  | error e => exact hr

/-- A part that does not fail, and a run of what follows it. -/
theorem Leads.try {x : ExceptT ε (Program σ) α} {a : α} {q : Program σ (Except ε β)}
    (hx : Leads x t (.done (.ok a))) (hf : Leads (f a) u q) :
    Leads (x >>= f : ExceptT ε (Program σ) β) (t ++ u) q :=
  (Leads.bind hx _).append hf

theorem along_return {b : β} (h : End t (.ok b)) :
    Along Ask End t (pure b : ExceptT ε (Program σ) β) := h

theorem along_throw {e : ε} (h : End t (.error e)) :
    Along Ask End t (throw e : ExceptT ε (Program σ) β) := h

/-- A check that asks nothing. -/
theorem along_check {x : Except ε α} (failed : ∀ e, x = .error e → End t (.error e))
    (passed : ∀ a, x = .ok a → Along Ask End t (f a)) :
    Along Ask End t (liftM x >>= f : ExceptT ε (Program σ) β) := by
  refine along_try ?_
  cases x with
  | ok a => exact passed a rfl
  | error e => exact failed e rfl

theorem leads_check {x : Except ε α} {a : α} {q : Program σ (Except ε β)} (hx : x = .ok a)
    (hf : Leads (f a) u q) : Leads (liftM x >>= f : ExceptT ε (Program σ) β) u q := by
  subst hx
  exact hf

theorem leads_check_error {x : Except ε α} {e : ε} (hx : x = .error e) :
    Leads (liftM x >>= f : ExceptT ε (Program σ) β) [] (.done (.error e)) := by
  subst hx
  exact .refl _

/-- A run that begins with a check. -/
theorem Leads.of_check {x : Except ε α} {r : Except ε β}
    (h : Leads (liftM x >>= f : ExceptT ε (Program σ) β) u (.done r)) :
    (∃ e, x = .error e ∧ u = [] ∧ r = .error e) ∨ ∃ a, x = .ok a ∧ Leads (f a) u (.done r) := by
  cases x with
  | ok a => exact .inr ⟨a, rfl, h⟩
  | error e =>
    obtain _ | _ := (show Leads (.done (.error e)) u (.done r) from h)
    exact .inl ⟨e, rfl, rfl, rfl⟩

theorem leads_perform {op : σ.Op} (answer : σ.Answer op)
    {f : σ.Answer op → ExceptT ε (Program σ) β} {q : Program σ (Except ε β)}
    (hf : Leads (f answer) u q) :
    Leads (liftM (perform σ op) >>= f : ExceptT ε (Program σ) β) (⟨op, answer⟩ :: u) q :=
  .ask hf

/-- A part about which nothing is to be said. -/
theorem along_any {x : ExceptT ε (Program σ) α} (failed : ∀ t e, End t (.error e))
    (next : ∀ t a, Along (fun _ _ => True) End t (f a)) :
    Along (fun _ _ => True) End t (x >>= f : ExceptT ε (Program σ) β) := by
  refine along_try (Along.mono (along_true x) (fun _ _ ask => ask) fun t r _ => ?_)
  cases r with
  | ok a => exact next t a
  | error e => exact failed t e

end Failing

/-- A run of a program, with the runs that answered its questions. -/
theorem Leads.interpret {handle : (op : σ.Op) → Program τ (σ.Answer op)} {p q : Program σ α}
    (h : Leads p t q) (during : Exchange σ → Trace τ)
    (hhandle : ∀ e ∈ t, Leads (handle e.op) (during e) (.done e.answer)) :
    Leads (p.interpret handle) (t.flatMap during) (q.interpret handle) := by
  induction h with
  | refl => exact .refl _
  | ask _ ih =>
    rw [List.forall_mem_cons] at hhandle
    rw [List.flatMap_cons]
    exact (hhandle.1.bind _).append (ih hhandle.2)

/-- A program whose questions are answered by programs. `Tells` relates what these were told to what
they answered. -/
theorem along_interpret {handle : (op : σ.Op) → Program τ (σ.Answer op)}
    {AskInner : Trace τ → τ.Op → Prop} {Tells : Trace τ → Trace σ → Prop}
    (hhandle : ∀ t u op, Tells t u →
      Along AskInner (fun t' answer => Tells t' (u ++ [⟨op, answer⟩])) t (handle op))
    {p : Program σ α} (hp : Along Ask End u p) {t : Trace τ} (ht : Tells t u) :
    Along AskInner (fun t' a => ∃ u', Tells t' u' ∧ End u' a) t (p.interpret handle) := by
  induction p generalizing t u with
  | done a => exact ⟨u, ht, hp⟩
  | ask op next ih =>
    refine along_bind.2 ((hhandle t u op ht).mono (fun _ _ h => h) fun t' answer ht' => ?_)
    exact ih answer (hp.2 answer) ht'

-- so that no judgement of a long program is unfolded by accident
attribute [irreducible] Along

end Program

end NodePki
