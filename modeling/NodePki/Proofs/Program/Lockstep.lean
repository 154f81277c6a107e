import Mathlib.Data.List.Forall2
import NodePki.Proofs.Program.Run

/-!
# Programs in step

Two programs that cannot be told apart as long as what they are told cannot be told apart. `InStep`
is a judgement of two programs, question by question; from it, two runs that are answered alike ask
alike and end alike (`InStep.runs`). That the answers are alike is asked for only where all before
was alike.
-/

namespace NodePki.Program

variable {σ : Signature} {α β : Type}

/-- Two programs ask alike and end alike, as long as they are answered alike. -/
inductive InStep (Asks : σ.Op → σ.Op → Prop) (Told : Exchange σ → Exchange σ → Prop)
    (Ends : α → β → Prop) : Program σ α → Program σ β → Prop
  | done {a : α} {b : β} (ends : Ends a b) : InStep Asks Told Ends (.done a) (.done b)
  | ask {op op' : σ.Op} {next : σ.Answer op → Program σ α} {next' : σ.Answer op' → Program σ β}
      (asks : Asks op op')
      (rest : ∀ answer answer', Told ⟨op, answer⟩ ⟨op', answer'⟩ →
        InStep Asks Told Ends (next answer) (next' answer')) :
      InStep Asks Told Ends (.ask op next) (.ask op' next')

/-- Like questions with like answers. -/
def Matched (Asks : σ.Op → σ.Op → Prop) (Told : Exchange σ → Exchange σ → Prop)
    (e e' : Exchange σ) : Prop :=
  Asks e.op e'.op ∧ Told e e'

variable {Asks : σ.Op → σ.Op → Prop} {Told : Exchange σ → Exchange σ → Prop} {Ends : α → β → Prop}
  {p : Program σ α} {q : Program σ β} {u u' : Trace σ} {a : α} {b : β}

/-- Runs that are answered alike are alike. -/
theorem InStep.runs (h : InStep Asks Told Ends p q) (hp : Leads p u (.done a))
    (hq : Leads q u' (.done b))
    (htold : ∀ before e after before' e' after', u = before ++ e :: after →
      u' = before' ++ e' :: after' → List.Forall₂ (Matched Asks Told) before before' →
      Asks e.op e'.op → Told e e') :
    List.Forall₂ (Matched Asks Told) u u' ∧ Ends a b := by
  induction h generalizing u u' with
  | done ends =>
    cases hp
    cases hq
    exact ⟨.nil, ends⟩
  | @ask op op' next next' asks rest ih =>
    cases hp with
    | @ask _ _ answer u _ hp =>
    cases hq with
    | @ask _ _ answer' u' _ hq =>
    have told : Told ⟨op, answer⟩ ⟨op', answer'⟩ := htold [] _ u [] _ u' rfl rfl .nil asks
    -- what was alike before these exchanges and they themselves are what is alike before the rest
    obtain ⟨hmatched, ends⟩ := ih answer answer' told hp hq
      fun before e after before' e' after' hu hu' hbefore =>
        htold (_ :: before) e after (_ :: before') e' after' (congrArg _ hu) (congrArg _ hu')
          (.cons ⟨asks, told⟩ hbefore)
    exact ⟨.cons ⟨asks, told⟩ hmatched, ends⟩

end NodePki.Program
