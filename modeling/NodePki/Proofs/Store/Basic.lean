import NodePki.Store.Basic
import NodePki.Proofs.Program.Run

/-!
# Judging programs that ask a store

One rule for each way in which a program that asks a store and may fail goes on: a question to the
store, something done on the machine alone. Each rule says what is left to judge, and with which
exchanges before it; an error ends the program at once. The rules for `Leads` say with which
exchanges one run goes on.
-/

namespace NodePki

/-- A store says that it keeps a secret under a name. -/
inductive SecretStore.Tells (ns name : String) (s : Kube.Secret) :
    Exchange (SecretStore.sum Surroundings) → Prop
  | read : Tells ns name s ⟨.inl (.get ns name), .ok (some s)⟩
  | created {secret : Kube.Secret} (named : secret.metadata.name = some name) :
      Tells ns name s ⟨.inl (.create ns secret), .ok (.created s)⟩

namespace Program

variable {α β : Type}
  {Ask : Trace (SecretStore.sum Surroundings) → (SecretStore.sum Surroundings).Op → Prop}
  {End : Trace (SecretStore.sum Surroundings) → Except Error β → Prop}
  {t : Trace (SecretStore.sum Surroundings)}

/-- Reading a secret. -/
theorem along_get {ns name : String} {f : Option Kube.Secret → ExceptT Error Storing β}
    (asks : Ask t (.inl (.get ns name)))
    (failed : ∀ e, End (t ++ [⟨.inl (.get ns name), .error e⟩]) (.error e))
    (read : ∀ s, Along Ask End (t ++ [⟨.inl (.get ns name), .ok s⟩]) (f s)) :
    Along Ask End t (SecretStore.get ns name >>= f : ExceptT Error Storing β) := by
  refine along_try (along_ask.2 ⟨asks, fun answer => (along_done _).2 ?_⟩)
  cases answer with
  | ok s => exact read s
  | error e => exact failed e

/-- Creating a secret. -/
theorem along_create {ns : String} {secret : Kube.Secret}
    {f : CreateOutcome → ExceptT Error Storing β} (asks : Ask t (.inl (.create ns secret)))
    (failed : ∀ e, End (t ++ [⟨.inl (.create ns secret), .error e⟩]) (.error e))
    (told : ∀ o, Along Ask End (t ++ [⟨.inl (.create ns secret), .ok o⟩]) (f o)) :
    Along Ask End t (SecretStore.create ns secret >>= f : ExceptT Error Storing β) := by
  refine along_try (along_ask.2 ⟨asks, fun answer => (along_done _).2 ?_⟩)
  cases answer with
  | ok o => exact told o
  | error e => exact failed e

/-- Something done on the machine alone, which may always be asked. -/
theorem along_aside {p : ExceptT Error (Program Surroundings) α}
    {f : α → ExceptT Error Storing β} (machine : ∀ t op, Ask t (.inr op))
    (failed : ∀ u e, Leads p u (.done (.error e)) → End (t ++ u.map .right) (.error e))
    (made : ∀ u a, Leads p u (.done (.ok a)) → Along Ask End (t ++ u.map .right) (f a)) :
    Along Ask End t (SecretStore.aside p >>= f : ExceptT Error Storing β) := by
  refine along_try (along_right (fun u op => machine _ op) fun u r hr => ?_)
  cases r with
  | ok a => exact made u a hr
  | error e => exact failed u e hr

/-- Reporting an event. -/
theorem along_report {source : Log.Source} {level : Log.Level} {message : String}
    {fields : List (String × String)} {f : Unit → ExceptT Error Storing β}
    (machine : ∀ t op, Ask t (.inr op))
    (reported : ∀ u : Trace Surroundings, Along Ask End (t ++ u.map .right) (f ())) :
    Along Ask End t
      (SecretStore.report source level message fields >>= f : ExceptT Error Storing β) := by
  refine along_aside machine (fun u e he => ?_) fun u a _ => reported u
  -- a report has no error to end with
  cases he with
  | ask rest => nomatch rest

section Leads

variable {u : Trace (SecretStore.sum Surroundings)} {q : Storing (Except Error β)}

theorem leads_get {ns name : String} (s : Option Kube.Secret)
    {f : Option Kube.Secret → ExceptT Error Storing β} (hf : Leads (f s) u q) :
    Leads (SecretStore.get ns name >>= f : ExceptT Error Storing β)
      (⟨.inl (.get ns name), .ok s⟩ :: u) q :=
  .ask hf

theorem leads_create {ns : String} {secret : Kube.Secret} (o : CreateOutcome)
    {f : CreateOutcome → ExceptT Error Storing β} (hf : Leads (f o) u q) :
    Leads (SecretStore.create ns secret >>= f : ExceptT Error Storing β)
      (⟨.inl (.create ns secret), .ok o⟩ :: u) q :=
  .ask hf

theorem leads_create_error {ns : String} {secret : Kube.Secret} (e : Error)
    {f : CreateOutcome → ExceptT Error Storing β} :
    Leads (SecretStore.create ns secret >>= f : ExceptT Error Storing β)
      [⟨.inl (.create ns secret), .error e⟩] (.done (.error e)) :=
  .ask (.refl _)

theorem leads_aside {p : ExceptT Error (Program Surroundings) α} {a : α}
    {f : α → ExceptT Error Storing β} {t : Trace Surroundings} (hp : Leads p t (.done (.ok a)))
    (hf : Leads (f a) u q) :
    Leads (SecretStore.aside p >>= f : ExceptT Error Storing β) (t.map .right ++ u) q :=
  Leads.try hp.right hf

theorem leads_aside_error {p : ExceptT Error (Program Surroundings) α} {e : Error}
    {f : α → ExceptT Error Storing β} {t : Trace Surroundings}
    (hp : Leads p t (.done (.error e))) :
    Leads (SecretStore.aside p >>= f : ExceptT Error Storing β) (t.map .right) (.done (.error e)) :=
  Leads.bind hp.right _

theorem leads_report {source : Log.Source} {level : Log.Level} {message : String}
    {fields : List (String × String)} {f : Unit → ExceptT Error Storing β} (hf : Leads (f ()) u q) :
    Leads (SecretStore.report source level message fields >>= f : ExceptT Error Storing β)
      (⟨.inr (.report (source.event level message fields)), ()⟩ :: u) q :=
  .ask hf

end Leads

end Program

end NodePki
