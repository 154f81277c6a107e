import NodePki.Json.Parser
import NodePki.Json.Printer
import NodePki.Kube.Codec
import NodePki.Program.Surroundings

/-!
# The cluster API

Requests to the API server, what its answers mean, and the few requests that the program makes. An
answer of 400 or more is a refusal; its body says why, or is itself the reason.
-/

namespace NodePki.Kube

/-- What a request does. -/
inductive Method
  | get
  | post
  deriving DecidableEq, Repr

/-- The name of a method. -/
def Method.name : Method → String
  | get => "GET"
  | post => "POST"

/-- A request. -/
structure Request where
  method : Method
  path : String
  /-- The labels that listed objects must have, as `KEY=VALUE`. -/
  selector : Option String := none
  body : Option Json := none
  deriving Repr

/-- An answer: its number and its text. -/
structure Response where
  status : Nat
  body : String
  deriving DecidableEq, Repr

/-- What may be asked of the API server. An answer may fail to come, for a reason that is a text. -/
@[reducible] def Api : Signature where
  Op := Request
  Answer _ := Except String Response

/-- Programs that ask the API server and the machine. -/
abbrev Calling := Program (Api.sum Surroundings)

/-- The usual words for the numbers of answers. -/
def reasonPhrases : List (Nat × String) := [
  (400, "Bad Request"), (401, "Unauthorized"), (402, "Payment Required"), (403, "Forbidden"),
  (404, "Not Found"), (405, "Method Not Allowed"), (406, "Not Acceptable"),
  (407, "Proxy Authentication Required"), (408, "Request Timeout"), (409, "Conflict"),
  (410, "Gone"), (411, "Length Required"), (412, "Precondition Failed"),
  (413, "Payload Too Large"), (414, "URI Too Long"), (415, "Unsupported Media Type"),
  (416, "Range Not Satisfiable"), (417, "Expectation Failed"), (418, "I'm a teapot"),
  (421, "Misdirected Request"), (422, "Unprocessable Entity"), (423, "Locked"),
  (424, "Failed Dependency"), (425, "Too Early"), (426, "Upgrade Required"),
  (428, "Precondition Required"), (429, "Too Many Requests"),
  (431, "Request Header Fields Too Large"), (451, "Unavailable For Legal Reasons"),
  (500, "Internal Server Error"), (501, "Not Implemented"), (502, "Bad Gateway"),
  (503, "Service Unavailable"), (504, "Gateway Timeout"), (505, "HTTP Version Not Supported"),
  (506, "Variant Also Negotiates"), (507, "Insufficient Storage"), (508, "Loop Detected"),
  (510, "Not Extended"), (511, "Network Authentication Required")]

/-- The number of an answer with the usual words for it. -/
def statusLine (status : Nat) : String :=
  let phrase := ((reasonPhrases.find? (·.1 = status)).map (·.2)).getD "<unknown status code>"
  s!"{status} {phrase}"

namespace Response

/-- Whether an answer is a refusal. -/
def isRefusal (r : Response) : Bool := 400 ≤ r.status && r.status < 600

/-- What a refusal says; a body that says nothing is quoted. -/
def refusal (r : Response) : Status :=
  match (Json.parse? r.body).bind readStatus with
  | some status => status
  | none =>
    { status := statusLine r.status
      message := Quoted.quote r.body
      reason := "Failed to parse error data"
      code := r.status }

/-- The object in an answer. -/
def object {α : Type} (read : Json → Option α) (r : Response) : Except Failure α :=
  if r.isRefusal then .error (.refused r.refusal)
  else
    match (Json.parse? r.body).bind read with
    | some a => .ok a
    | none => .error (.undecodable "not the expected object")

end Response

/-- The path of the objects of a kind in a namespace. -/
def collectionPath (kind : Kind) (ns : String) : String :=
  s!"/api/v1/namespaces/{ns}/{kind.plural}"

/-- Whether a character cannot stand in the address of a request. -/
def breaksAddress (c : Char) : Bool :=
  c.toNat ≤ 0x20 || c == '<' || c == '>' || c == '\x60' || c == '\x7f'

/-- The part of a path before a query or fragment that it may hold. -/
def pathOf (path : List Char) : List Char := path.takeWhile fun c => c != '?' && c != '#'

/-- Sends a request, whose path is checked first, and reads the object in the answer. -/
def send {α : Type} (read : Json → Option α) (request : Request) :
    ExceptT Failure Calling α := do
  let path := pathOf request.path.toList
  if path.any breaksAddress then throw (.unsendable .address)
  let request := { request with path := String.ofList path }
  match ← (show Calling (Except String Response) from (Program.perform Api request).left) with
  | .error text => throw (.unreachable text)
  | .ok response => response.object read

/-- Reads an object by its name, which cannot be empty. -/
def getObject {α : Type} (read : Json → Option α) (kind : Kind) (ns name : String) :
    ExceptT Failure Calling α := do
  if name = "" then throw (.unsendable .emptyName)
  send read { method := .get, path := s!"{collectionPath kind ns}/{name}" }

/-- Reads a pod. -/
def getPod (ns name : String) : ExceptT Failure Calling Pod := getObject readPod .pod ns name

/-- Reads a secret. -/
def getSecret (ns name : String) : ExceptT Failure Calling Secret :=
  getObject readSecret .secret ns name

/-- Lists the services with a label. -/
def listServices (ns selector : String) : ExceptT Failure Calling (List Service) :=
  send readServices
    { method := .get, path := collectionPath .service ns, selector := some selector }

/-- Creates a secret, and answers it as the server keeps it. -/
def createSecret (ns : String) (secret : Secret) : ExceptT Failure Calling Secret :=
  send readSecret
    { method := .post, path := collectionPath .secret ns, body := some secret.json }

end NodePki.Kube
