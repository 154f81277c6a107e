/-!
# Programs

Computations that ask for things outside themselves, as trees: a program is finished, or asks and
goes on with the answer. What may be asked is a signature. A program does nothing by itself; how its
questions are answered is said when it is interpreted, so one program can be run, simulated, or
followed step by step among others.
-/

namespace NodePki

/-- What may be asked, and the type of each answer. -/
structure Signature where
  Op : Type
  Answer : Op → Type

/-- What may be asked of either of two. -/
@[reducible] def Signature.sum (σ τ : Signature) : Signature where
  Op := σ.Op ⊕ τ.Op
  Answer
    | .inl op => σ.Answer op
    | .inr op => τ.Answer op

/-- A program that asks what `σ` says and ends with a value. -/
inductive Program (σ : Signature) (α : Type) : Type
  | done (a : α)
  | ask (op : σ.Op) (next : σ.Answer op → Program σ α)

namespace Program

variable {σ τ : Signature} {α β γ : Type}

/-- One program after another. -/
def bind : Program σ α → (α → Program σ β) → Program σ β
  | done a, f => f a
  | ask op next, f => ask op fun answer => (next answer).bind f

instance : Monad (Program σ) where
  pure := done
  bind := bind

/-- Asks one thing and ends with the answer. -/
def perform (σ : Signature) (op : σ.Op) : Program σ (σ.Answer op) := ask op done

/-- Runs a program, with every question answered by `handle`. -/
def interpret {m : Type → Type} [Monad m] (handle : (op : σ.Op) → m (σ.Answer op)) :
    Program σ α → m α
  | done a => pure a
  | ask op next => handle op >>= fun answer => interpret handle (next answer)

/-- A program that asks the first of two. -/
def left : Program σ α → Program (σ.sum τ) α
  | done a => done a
  | ask op next => ask (.inl op) fun answer => left (next answer)

/-- A program that asks the second of two. -/
def right : Program τ α → Program (σ.sum τ) α
  | done a => done a
  | ask op next => ask (.inr op) fun answer => right (next answer)

@[simp] theorem pure_eq (a : α) : (pure a : Program σ α) = done a := rfl

@[simp] theorem bind_eq (p : Program σ α) (f : α → Program σ β) : p >>= f = p.bind f := rfl

@[simp] theorem done_bind (a : α) (f : α → Program σ β) : (done a).bind f = f a := rfl

@[simp] theorem ask_bind (op : σ.Op) (next : σ.Answer op → Program σ α) (f : α → Program σ β) :
    (ask op next).bind f = ask op fun answer => (next answer).bind f := rfl

theorem bind_done (p : Program σ α) : p.bind done = p := by
  induction p with
  | done a => rfl
  | ask op next ih => simp [ih]

theorem bind_assoc (p : Program σ α) (f : α → Program σ β) (g : β → Program σ γ) :
    (p.bind f).bind g = p.bind fun a => (f a).bind g := by
  induction p with
  | done a => rfl
  | ask op next ih => simp [ih]

instance : LawfulMonad (Program σ) :=
  LawfulMonad.mk' _ bind_done (fun _ _ => rfl) bind_assoc

end Program

end NodePki
