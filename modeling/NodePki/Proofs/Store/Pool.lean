import NodePki.Concurrent
import NodePki.Proofs.Store.Memory

/-!
# Runs of a pool

The steps of a pool are the exchanges of its clients with the store in memory, in an order that the
schedule chooses. A run is an interleaving, with the history that `Pool.history` says
(`Pool.interleaving`), and every interleaving is the run of some schedule (`Pool.exists_schedule`),
such as two runs of clients one after the other (`Pool.exists_in_turn`).
No client can be kept from its end by the others: under a schedule that goes on for ever, whoever
gets a turn again and again ends (`Pool.exists_done`).
-/

namespace NodePki.Pool

variable {α : Type} {p : Pool α} {i j : Nat} {answers : Answers}

/-- The exchange of a step, if the client has something to ask. -/
def exchange? (p : Pool α) (client : Nat) (answers : Answers) :
    Option (Exchange (SecretStore.sum Surroundings)) :=
  match p.clients[client]? with
  | some (.ask (.inl op) _) => some ⟨.inl op, (p.store.answer op).1⟩
  | some (.ask (.inr op) _) => some ⟨.inr op, answers op⟩
  | _ => none

/-- The exchanges of a schedule's steps. -/
def history (p : Pool α) : List (Nat × Answers) → History (SecretStore.sum Surroundings)
  | [] => []
  | (client, answers) :: schedule =>
    ((p.exchange? client answers).map (client, ·)).toList ++
      history (p.step client answers) schedule

/-- The pool after the first `n` steps of a schedule that goes on for ever. -/
def after (p : Pool α) (schedule : Nat → Nat × Answers) (n : Nat) : Pool α :=
  p.run ((List.range n).map schedule)

/-- The exchanges of the first `n` steps of a schedule that goes on for ever. -/
def historyAfter (p : Pool α) (schedule : Nat → Nat × Answers) (n : Nat) :
    History (SecretStore.sum Surroundings) :=
  p.history ((List.range n).map schedule)

theorem after_succ (p : Pool α) (schedule : Nat → Nat × Answers) (n : Nat) :
    p.after schedule (n + 1) = (p.after schedule n).step (schedule n).1 (schedule n).2 := by
  simp [after, run, List.range_succ]

theorem run_append (p : Pool α) (s t : List (Nat × Answers)) :
    p.run (s ++ t) = (p.run s).run t := by
  simp [run]

theorem history_append (p : Pool α) (s t : List (Nat × Answers)) :
    p.history (s ++ t) = p.history s ++ (p.run s).history t := by
  induction s generalizing p with
  | nil => rfl
  | cons x s ih =>
    rw [List.cons_append, history, history, ih, List.append_assoc]
    rfl

theorem after_add (p : Pool α) (schedule : Nat → Nat × Answers) (n k : Nat) :
    p.after schedule (n + k) =
      (p.after schedule n).run ((List.range k).map (schedule <| n + ·)) := by
  rw [after, List.range_add, List.map_append, run_append, List.map_map]
  rfl

/-- A step is an exchange of the client, or nothing. -/
theorem step_cases (p : Pool α) (i : Nat) (answers : Answers) :
    (p.exchange? i answers = none ∧ p.step i answers = p ∧
      ∀ op next, p.clients[i]? ≠ some (.ask op next)) ∨
    ∃ op next answer, p.clients[i]? = some (.ask op next) ∧
      p.exchange? i answers = some ⟨op, answer⟩ ∧
      (p.store.Replies ⟨op, answer⟩ (p.step i answers).store) ∧
      (p.step i answers).clients = p.clients.set i (next answer) := by
  unfold exchange? step
  match hc : p.clients[i]? with
  | none => exact .inl ⟨rfl, rfl, by simp⟩
  | some (.done a) => exact .inl ⟨rfl, rfl, by simp⟩
  | some (.ask (.inl op) next) =>
    exact .inr ⟨.inl op, next, _, rfl, rfl, .store p.store op, rfl⟩
  | some (.ask (.inr op) next) =>
    exact .inr ⟨.inr op, next, _, rfl, rfl, .other p.store op _, rfl⟩

/-- A run is an interleaving. -/
theorem interleaving (p : Pool α) (schedule : List (Nat × Answers)) :
    Interleaving MemoryStore.Replies p.store p.clients (p.history schedule) (p.run schedule).store
      (p.run schedule).clients := by
  induction schedule generalizing p with
  | nil => exact .nil _ _
  | cons s schedule ih =>
    obtain ⟨i, answers⟩ := s
    have := ih (p.step i answers)
    rcases p.step_cases i answers with ⟨he, hs, -⟩ | ⟨op, next, answer, hc, he, hr, hs⟩
    · rw [history, he]
      simpa [run, hs] using this
    · rw [history, he]
      rw [hs] at this
      exact .cons hc hr this

/-- A kept secret stays. -/
theorem get?_after_add (p : Pool α) (schedule : Nat → Nat × Answers) {n : Nat} (k : Nat)
    {ns name : String} {s : Kube.Secret} (h : (p.after schedule n).store.get? ns name = some s) :
    (p.after schedule (n + k)).store.get? ns name = some s := by
  rw [after_add]
  exact MemoryStore.grows_of_happens (interleaving _ _).happens h

theorem result?_eq_some {a : α} : p.result? i = some a ↔ p.clients[i]? = some (.done a) := by
  unfold result?
  split <;> simp_all

/-- Answers of a machine that is at the beginning of time and knows nothing. -/
def blank : Answers
  | .report _ => ()
  | .now => ⟨0⟩
  | .uptime => ⟨0⟩
  | .sleep _ => ()
  | .random count => Vector.replicate count 0

theorem exists_answers (op : Surroundings.Op) (a : Surroundings.Answer op) :
    ∃ answers : Answers, answers op = a := by
  classical exact ⟨fun op' => if h : op' = op then h ▸ a else blank op', by simp⟩

/-- Every interleaving is a run. -/
theorem exists_schedule {m m' : MemoryStore} {cs cs' : List (Storing α)}
    {h : History (SecretStore.sum Surroundings)}
    (hr : Interleaving MemoryStore.Replies m cs h m' cs') (asked : List SecretStore.Op) :
    ∃ schedule, (Pool.run ⟨m, cs, asked⟩ schedule).store = m' ∧
      (Pool.run ⟨m, cs, asked⟩ schedule).clients = cs' := by
  induction hr generalizing asked with
  | nil => exact ⟨[], rfl, rfl⟩
  | @cons m _ _ cs _ i op next answer _ turn reply _ ih =>
    cases reply with
    | store op =>
      obtain ⟨schedule, hs, hc⟩ := ih (op :: asked)
      refine ⟨(i, blank) :: schedule, ?_⟩
      have : Pool.step ⟨m, cs, asked⟩ i blank =
          ⟨(m.answer op).2, cs.set i (next (m.answer op).1), op :: asked⟩ := by simp [step, turn]
      simp only [run, List.foldl_cons, this] at hs hc ⊢
      exact ⟨hs, hc⟩
    | other op answer =>
      obtain ⟨schedule, hs, hc⟩ := ih asked
      obtain ⟨answers, ha⟩ := exists_answers op answer
      refine ⟨(i, answers) :: schedule, ?_⟩
      have : Pool.step ⟨m, cs, asked⟩ i answers = ⟨m, cs.set i (next answer), asked⟩ := by
        simp [step, turn, ha]
      simp only [run, List.foldl_cons, this] at hs hc ⊢
      exact ⟨hs, hc⟩

/-- Two clients can go to their ends one after the other. -/
theorem exists_in_turn {m m₁ m' : MemoryStore} {cs : List (Storing α)} {c c' : Storing α}
    {t u : Trace (SecretStore.sum Surroundings)} {a b : α} (hij : i ≠ j) (hi : cs[i]? = some c)
    (hc : c.Leads t (.done a)) (hm : Happens MemoryStore.Replies m t m₁) (hj : cs[j]? = some c')
    (hc' : c'.Leads u (.done b)) (hm' : Happens MemoryStore.Replies m₁ u m') :
    ∃ schedule, ((start m cs).run schedule).store = m' ∧
      ((start m cs).run schedule).result? i = some a ∧
      ((start m cs).run schedule).result? j = some b := by
  have hfirst := Interleaving.alone hc hm hi
  have hsecond := Interleaving.alone hc' hm' (show (cs.set i (.done a))[j]? = some c' by
    rw [List.getElem?_set_ne hij, hj])
  obtain ⟨schedule, hstore, hclients⟩ := exists_schedule (hfirst.append hsecond) []
  have hi' : i < cs.length := (List.getElem?_eq_some_iff.1 hi).1
  have hj' : j < cs.length := (List.getElem?_eq_some_iff.1 hj).1
  refine ⟨schedule, hstore, ?_, ?_⟩
  · rw [result?_eq_some, start, hclients, List.getElem?_set_ne hij.symm]
    simp [hi']
  · rw [result?_eq_some, start, hclients]
    simp [hj']

/-- Every run is the beginning of one that goes on for ever. -/
theorem exists_after (p : Pool α) (steps : List (Nat × Answers)) : ∃ schedule n,
    p.after schedule n = p.run steps ∧ p.historyAfter schedule n = p.history steps := by
  have hsteps : (List.range steps.length).map (steps.getD · (0, blank)) = steps :=
    List.ext_getElem (by simp) fun k _ hk => by simp [hk]
  refine ⟨(steps.getD · (0, blank)), steps.length, ?_, ?_⟩
  · rw [after, hsteps]
  · rw [historyAfter, hsteps]

/-- A client moves in its own steps only. -/
theorem step_clients_of_ne (h : j ≠ i) : (p.step j answers).clients[i]? = p.clients[i]? := by
  rcases p.step_cases j answers with ⟨-, hs, -⟩ | ⟨op, next, answer, -, -, -, hs⟩
  · rw [hs]
  · rw [hs, List.getElem?_set_ne h]

/-- In its own step a client that has something to ask goes on. -/
theorem step_clients_self {op : (SecretStore.sum Surroundings).Op}
    {next : (SecretStore.sum Surroundings).Answer op → Storing α}
    (h : p.clients[i]? = some (.ask op next)) (answers : Answers) :
    ∃ answer, (p.step i answers).clients[i]? = some (next answer) := by
  rcases p.step_cases i answers with ⟨-, -, hn⟩ | ⟨op', next', answer, hc, -, -, hs⟩
  · exact absurd h (hn op next)
  · rw [h] at hc
    cases hc
    have hi : i < p.clients.length := (List.getElem?_eq_some_iff.1 h).1
    exact ⟨answer, by simp [hs, hi]⟩

/-- Whoever gets a turn again and again ends. -/
theorem exists_done (p : Pool α) {schedule : Nat → Nat × Answers} (hi : i < p.clients.length)
    (hturns : ∀ n, ∃ k ≥ n, (schedule k).1 = i) :
    ∃ n a, (p.after schedule n).result? i = some a := by
  suffices ∀ q n, (p.after schedule n).clients[i]? = some q →
      ∃ n a, (p.after schedule n).result? i = some a from
    this p.clients[i] 0 (by simp [after, run, hi])
  intro q
  induction q with
  | done a => intro n hq; exact ⟨n, a, by simp [result?, hq]⟩
  | ask op next ih =>
    intro n hq
    obtain ⟨k, hk, hturn⟩ := hturns n
    -- by induction on how long the client waits for its turn
    obtain ⟨d, rfl⟩ := Nat.exists_eq_add_of_le hk
    clear hk
    induction d generalizing n with
    | zero =>
      obtain ⟨answer, ha⟩ := step_clients_self hq (schedule n).2
      exact ih answer (n + 1) (by rw [after_succ, show (schedule n).1 = i from hturn, ha])
    | succ d ihd =>
      by_cases hn : (schedule n).1 = i
      · obtain ⟨answer, ha⟩ := step_clients_self hq (schedule n).2
        exact ih answer (n + 1) (by rw [after_succ, hn, ha])
      · refine ihd (n + 1) (by rw [after_succ, step_clients_of_ne hn, hq]) ?_
        rwa [Nat.add_right_comm, Nat.add_assoc]

/-! ### Clients whose answers are certain -/

/-- How many turns a schedule gives to a client. -/
def turns (schedule : List (Nat × Answers)) (i : Nat) : Nat := schedule.countP (·.1 = i)

theorem turns_cons (schedule : List (Nat × Answers)) (i j : Nat) (answers : Answers) :
    turns ((j, answers) :: schedule) i = turns schedule i + if j = i then 1 else 0 := by
  simp [turns, List.countP_cons]

theorem run_cons (p : Pool α) (i : Nat) (answers : Answers) (schedule : List (Nat × Answers)) :
    p.run ((i, answers) :: schedule) = (p.step i answers).run schedule := rfl

theorem history_cons_none (h : p.exchange? i answers = none) (schedule : List (Nat × Answers)) :
    p.history ((i, answers) :: schedule) = (p.step i answers).history schedule := by
  rw [history, h]
  rfl

theorem history_cons_some {e : Exchange (SecretStore.sum Surroundings)}
    (h : p.exchange? i answers = some e) (schedule : List (Nat × Answers)) :
    p.history ((i, answers) :: schedule) = (i, e) :: (p.step i answers).history schedule := by
  rw [history, h]
  rfl

/-- In the stores that satisfy `P` a question has one answer only. -/
def Certain (P : MemoryStore → Prop) (e : Exchange (SecretStore.sum Surroundings)) : Prop :=
  ∀ m answer m', P m → m.Replies ⟨e.op, answer⟩ m' → answer = e.answer

/-- A client without a turn stays where it is. -/
theorem clients_run_of_not_mem {schedule : List (Nat × Answers)} (h : ∀ x ∈ schedule, x.1 ≠ i) :
    (p.run schedule).clients[i]? = p.clients[i]? := by
  induction schedule generalizing p with
  | nil => rfl
  | cons x schedule ih =>
    rw [List.forall_mem_cons] at h
    exact (ih h.2).trans (step_clients_of_ne h.1)

/-- A client goes through a run of its own, one exchange a turn, if the answers in this run are certain
in all stores that satisfy `P`, and the store satisfies it for good. -/
theorem run_of_certain {P : MemoryStore → Prop}
    (keeps : ∀ {m m' : MemoryStore} {e : Exchange (SecretStore.sum Surroundings)},
      m.Replies e m' → P m → P m') {c : Storing α}
    {t : Trace (SecretStore.sum Surroundings)} {a : α} (hc : c.Leads t (.done a))
    (certain : ∀ e ∈ t, Certain P e) (hP : P p.store) (hi : p.clients[i]? = some c)
    (schedule : List (Nat × Answers)) :
    (p.history schedule).client i = t.take (turns schedule i) ∧
      (p.run schedule).result? i = if t.length ≤ turns schedule i then some a else none := by
  induction schedule generalizing p c t with
  | nil =>
    refine ⟨rfl, ?_⟩
    change p.result? i = if t.length ≤ 0 then some a else none
    cases hc with
    | refl => exact result?_eq_some.2 hi
    | ask _ => simp [result?, hi]
  | cons x schedule ih =>
    obtain ⟨j, answers⟩ := x
    rcases p.step_cases j answers with ⟨he, hs, hdone⟩ | ⟨op, next, answer, hj, he, hr, hs⟩
    · -- whoever had the turn is done, so if it is this client there is nothing left of its run
      have hrest := ih hc certain hP hi
      rw [history_cons_none he, run_cons, hs, turns_cons]
      by_cases hij : j = i
      · subst hij
        cases hc with
        | ask _ => exact absurd hi (hdone _ _)
        | refl => simpa using hrest
      · rw [if_neg hij]
        exact hrest
    · rw [history_cons_some he, run_cons, turns_cons, History.client_cons]
      by_cases hij : j = i
      · subst hij
        rw [hi] at hj
        cases hj
        cases hc with
        | @ask _ _ answer' t _ rest =>
          rw [List.forall_mem_cons] at certain
          obtain rfl := certain.1 _ _ _ hP hr
          have hlength : j < p.clients.length := (List.getElem?_eq_some_iff.1 hi).1
          have hnext : (p.step j answers).clients[j]? = some (next answer) := by simp [hs, hlength]
          obtain ⟨hclient, hresult⟩ := ih rest certain.2 (keeps hr hP) hnext
          rw [if_pos rfl, if_pos rfl, List.take_succ_cons, hclient, List.length_cons]
          refine ⟨rfl, ?_⟩
          simpa using hresult
      · rw [if_neg hij, if_neg hij]
        have hsame : (p.step j answers).clients[i]? = some c := by
          rw [step_clients_of_ne hij, hi]
        exact ih hc certain (keeps hr hP) hsame

end NodePki.Pool
