import NodePki.Error
import NodePki.Kube.Object
import NodePki.Program.Surroundings

/-!
# Stores of secrets

What may be asked of a store: a secret by its name, and to keep a secret unless there is one of that
name. All agreement between those who use a store at the same time rests on the second being one
step: of several who create one name, one is told that it created.
-/

namespace NodePki

/-- What became of a secret that was to be created. -/
inductive CreateOutcome
  /-- There was none of that name; this is the one that is kept now. -/
  | created (secret : Kube.Secret)
  /-- There is one of that name, and nothing was done. -/
  | alreadyExists
  deriving DecidableEq, Repr

/-- What may be asked of a store. -/
inductive SecretStore.Op
  | get (ns name : String)
  | create (ns : String) (secret : Kube.Secret)
  deriving DecidableEq, Repr

/-- A store of secrets. -/
@[reducible] def SecretStore : Signature where
  Op := SecretStore.Op
  Answer
    | .get _ _ => Except Error (Option Kube.Secret)
    | .create _ _ => Except Error CreateOutcome

/-- Programs that ask a store and the machine. -/
abbrev Storing := Program (SecretStore.sum Surroundings)

namespace SecretStore

/-- The secret of a name, if there is one. -/
def get (ns name : String) : ExceptT Error Storing (Option Kube.Secret) :=
  (Program.perform SecretStore (Op.get ns name)).left

/-- Keeps a secret unless there is one of its name. -/
def create (ns : String) (secret : Kube.Secret) : ExceptT Error Storing CreateOutcome :=
  (Program.perform SecretStore (Op.create ns secret)).left

/-- Does what needs no store. -/
def aside {α : Type} (p : ExceptT Error (Program Surroundings) α) : ExceptT Error Storing α :=
  Program.right p

/-- Reports an event. -/
def report (source : Log.Source) (level : Log.Level) (message : String)
    (fields : List (String × String)) : ExceptT Error Storing Unit :=
  aside (Surroundings.report source level message fields)

end SecretStore

end NodePki
