import NodePki.Store.Memory

/-!
# Clients side by side

Programs that share one store in memory. A step lets one client ask one thing: the store answers at
once and as a whole, and what is asked of the machine is answered by whatever the step brings along.
A schedule is any list of steps, so nothing is assumed about the order in which clients get on.
-/

namespace NodePki

/-- Answers to everything that may be asked of a machine. -/
abbrev Answers := (op : Surroundings.Op) → Surroundings.Answer op

/-- Clients over one store, by what each has left to do. -/
structure Pool (α : Type) where
  store : MemoryStore
  clients : List (Storing α)
  /-- What has been asked of the store, last question first. -/
  asked : List SecretStore.Op

namespace Pool

variable {α : Type}

/-- Clients before their first step. -/
def start (store : MemoryStore) (clients : List (Storing α)) : Pool α := ⟨store, clients, []⟩

/-- Lets the client with the given number ask one thing. -/
def step (p : Pool α) (client : Nat) (answers : Answers) : Pool α :=
  match p.clients[client]? with
  | some (.ask (.inl op) next) =>
    let (answer, store) := p.store.answer op
    ⟨store, p.clients.set client (next answer), op :: p.asked⟩
  | some (.ask (.inr op) next) => { p with clients := p.clients.set client (next (answers op)) }
  | _ => p

/-- Takes the steps of a schedule. -/
def run (p : Pool α) (schedule : List (Nat × Answers)) : Pool α :=
  schedule.foldl (fun p s => p.step s.1 s.2) p

/-- The result of a client that is done. -/
def result? (p : Pool α) (client : Nat) : Option α :=
  match p.clients[client]? with
  | some (.done a) => some a
  | _ => none

/-- The results of the clients that are done, in their order. -/
def results (p : Pool α) : List α :=
  p.clients.filterMap fun c =>
    match c with
    | .done a => some a
    | .ask _ _ => none

end Pool

end NodePki
