import NodePki.Text.Quoted

/-!
# Failures of the cluster API

What can go wrong with one request, its wording, and the causes behind it.
-/

namespace NodePki.Kube

/-- The refusal that the API server sends in place of an object. -/
structure Status where
  status : String
  message : String
  reason : String
  code : Nat
  deriving DecidableEq, Repr

/-- Message and reason. -/
def Status.summary (s : Status) : String := s!"{s.message}: {s.reason}"

/-- All fields, with the texts quoted. -/
def Status.details (s : Status) : String :=
  "ErrorResponse \x7b " ++
  s!"status: {Quoted.quote s.status}, message: {Quoted.quote s.message}, " ++
  s!"reason: {Quoted.quote s.reason}, code: {s.code}" ++ " \x7d"

/-- Why a request could not be made up. -/
inductive RequestFault
  /-- An object is read by a name, which cannot be empty. -/
  | emptyName
  /-- A name holds a character that cannot stand in the address of the request. -/
  | address
  deriving DecidableEq, Repr

/-- The wording of a request that could not be made up, and the causes behind it. -/
def RequestFault.chain : RequestFault → List String
  | emptyName => ["failed to validate request: A non-empty name is required"]
  | address => ["failed to build request: invalid uri character", "invalid uri character"]

/-- Why a request gave no object. -/
inductive Failure
  /-- The server refused. -/
  | refused (status : Status)
  /-- The request could not be made up. -/
  | unsendable (fault : RequestFault)
  /-- No answer came. -/
  | unreachable (text : String)
  /-- The answer is no such object. -/
  | undecodable (text : String)
  deriving DecidableEq, Repr

/-- The wording of a failure and the causes behind it, outermost first. -/
def Failure.chain : Failure → List String
  | refused s => [s!"ApiError: {s.summary} ({s.details})", s.summary]
  | unsendable fault =>
    ("Failed to build request: " ++ fault.chain.headD "") :: fault.chain
  | unreachable text => [s!"ServiceError: {text}", text]
  | undecodable text => [s!"Error deserializing response: {text}", text]

/-- The wording of a failure. -/
def Failure.message (f : Failure) : String := f.chain.headD ""

end NodePki.Kube
