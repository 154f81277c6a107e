import NodePki.Store.Basic

/-!
# Stores in memory

A store that lives as long as the process: secrets by namespace and name, and how many were created.
A kept secret carries the namespace that it is kept in.
-/

namespace NodePki

/-- A store in memory. -/
structure MemoryStore where
  secrets : Dict (String × String) Kube.Secret
  /-- How often a secret was created, not counting those put in past `create`. -/
  creates : Nat
  deriving DecidableEq, Repr

namespace MemoryStore

/-- The store without secrets. -/
def empty : MemoryStore := ⟨.empty, 0⟩

instance : Inhabited MemoryStore := ⟨empty⟩

/-- The number of secrets. -/
def size (m : MemoryStore) : Nat := m.secrets.size

/-- A secret with the namespace it is kept in. -/
def withNamespace (secret : Kube.Secret) (ns : String) : Kube.Secret :=
  { secret with metadata := { secret.metadata with ns := some ns } }

/-- The name of a secret, which it needs to be kept. -/
def nameOf (secret : Kube.Secret) : Except Error String :=
  match secret.metadata.name with
  | some name => .ok name
  | none => .error (.store .unnamed)

/-- The secret of a name. -/
def get? (m : MemoryStore) (ns name : String) : Option Kube.Secret := m.secrets.get? (ns, name)

/-- Keeps a secret, whether or not there is one of its name; this counts for no creation. -/
def insert (m : MemoryStore) (ns : String) (secret : Kube.Secret) : Except Error MemoryStore := do
  let name ← nameOf secret
  return { m with secrets := m.secrets.insert (ns, name) (withNamespace secret ns) }

/-- Keeps a secret unless there is one of its name. -/
def create (m : MemoryStore) (ns : String) (secret : Kube.Secret) :
    Except Error CreateOutcome × MemoryStore :=
  match nameOf secret with
  | .error e => (.error e, m)
  | .ok name =>
    if m.secrets.contains (ns, name) then (.ok .alreadyExists, m)
    else
      let kept := withNamespace secret ns
      (.ok (.created kept), ⟨m.secrets.insert (ns, name) kept, m.creates + 1⟩)

/-- The answer to a question, and the store after it. -/
def answer (m : MemoryStore) : (op : SecretStore.Op) → SecretStore.Answer op × MemoryStore
  | .get ns name => (.ok (m.get? ns name), m)
  | .create ns secret => m.create ns secret

/-- Answers the questions of a program to a store from a store in memory. -/
def handle {τ : Signature} : (op : (SecretStore.sum τ).Op) →
    StateT MemoryStore (Program τ) ((SecretStore.sum τ).Answer op)
  | .inl op => fun m => .done (m.answer op)
  | .inr op => fun m => .ask op fun a => .done (a, m)

/-- Runs a program with a store in memory, and answers also what the store holds at the end. -/
def run {τ : Signature} {α : Type} (p : Program (SecretStore.sum τ) α) (m : MemoryStore) :
    Program τ (α × MemoryStore) :=
  p.interpret handle m

end MemoryStore

end NodePki
