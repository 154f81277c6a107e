import NodePki.Kube.Api

/-!
# A simulated API server

An API server that holds objects as they were given to it. It answers reads of single objects, lists
of services by one label, and creations of secrets; faults that are set up answer instead, each a
number of times.
-/

namespace NodePki.Kube

/-- An answer that takes the place of the usual one for some requests. -/
structure Fault where
  /-- How the method and the path of the requests begin. -/
  start : String
  /-- How often the fault still answers. -/
  times : Nat
  response : Response

/-- An object with its kind and namespace. -/
structure Entry where
  kind : Kind
  ns : String
  object : Json

/-- A server. -/
structure Server where
  entries : List Entry
  faults : List Fault
  /-- The requests, last one first. -/
  requests : List Request
  /-- The secrets that were created, last one first. -/
  created : List Json

namespace Server

/-- The namespace of objects that name none. -/
def defaultNamespace : String := "default"

/-- A member of an object's metadata. -/
def metadataText? (name : String) (object : Json) : Option String := do
  (← (← object.field? "metadata").field? name).string?

/-- An object as the server holds it. -/
def entryOf (kind : Kind) (object : Json) : Entry :=
  ⟨kind, (metadataText? "namespace" object).getD defaultNamespace, object⟩

/-- A server that holds objects. -/
def make (pods services secrets : List Json) (faults : List Fault) : Server where
  entries :=
    pods.map (entryOf .pod) ++ services.map (entryOf .service) ++ secrets.map (entryOf .secret)
  faults
  requests := []
  created := []

/-- The objects of a kind in a list of objects of all kinds. -/
def itemsOf (kind : String) (items : List Json) : List Json :=
  items.filter fun item => (item.field? "kind").bind Json.string? == some kind

/-- The server that holds the objects of a list object, if a text is one. -/
def ofText? (text : String) : Option Server := do
  let items ← (← (← Json.parse? text).field? "items").array?
  return make (itemsOf "Pod" items) (itemsOf "Service" items) (itemsOf "Secret" items) []

/-- The answer to a request that cannot be met. -/
def refusal (code : Nat) (reason message : String) : Response where
  status := code
  body := Json.compact <| .object [
    ("kind", .string "Status"), ("apiVersion", .string "v1"), ("metadata", .object []),
    ("status", .string "Failure"), ("message", .string message), ("reason", .string reason),
    ("code", .ofNat code)]

/-- The object of a name. -/
def find? (s : Server) (kind : Kind) (ns name : String) : Option Json :=
  (s.entries.find? fun e =>
    e.kind = kind && e.ns = ns && metadataText? "name" e.object == some name).map (·.object)

/-- Whether an object has a label, given as `KEY=VALUE`. -/
def hasLabel (selector : String) (object : Json) : Bool :=
  match Text.splitFirst '=' selector.toList with
  | none => false
  | some (key, value) =>
    ((object.field? "metadata").bind fun m => (m.field? "labels").bind fun labels =>
      (labels.field? (String.ofList key)).bind Json.string?) == some (String.ofList value)

/-- The kind of the objects at a place in the addresses of requests. -/
def kindOf? (plural : String) : Option Kind :=
  [Kind.pod, Kind.service, Kind.secret].find? (·.plural = plural)

/-- The answer to a read of one object. -/
def readOne (s : Server) (ns plural name : String) : Response :=
  match (kindOf? plural).bind fun kind => s.find? kind ns name with
  | some object => ⟨200, object.compact⟩
  | none => refusal 404 "NotFound" s!"{plural} \"{name}\" not found"

/-- The answer to a read of all objects of a kind with a label. What is at no known place is a list
without objects. -/
def readAll (s : Server) (ns plural : String) (selector : Option String) : Response :=
  let kind := kindOf? plural
  let items := s.entries.filter fun e =>
    some e.kind = kind && e.ns = ns && selector.all fun label => hasLabel label e.object
  ⟨200, Json.compact <| .object [
    ("kind", .string (kind.elim "" Kind.name ++ "List")), ("apiVersion", .string "v1"),
    ("metadata", .object []), ("items", .array (items.map (·.object)))]⟩

/-- The answer to the creation of a secret, and the server after it. -/
def create (s : Server) (ns : String) (object : Json) : Response × Server :=
  let name := (metadataText? "name" object).getD ""
  match s.find? .secret ns name with
  | some _ => (refusal 409 "AlreadyExists" s!"secrets \"{name}\" already exists", s)
  | none =>
    (⟨201, object.compact⟩,
      { s with entries := s.entries ++ [⟨.secret, ns, object⟩], created := object :: s.created })

/-- The usual answer to a request, and the server after it. The address says, after a fixed start,
the namespace, the kind and perhaps the name; what it says beyond does not matter. -/
def serve (s : Server) (r : Request) : Response × Server :=
  let place := ((Text.splitOn '/' r.path.toList).map String.ofList).drop 4
  let ns := place.headD ""
  match r.method, place.drop 1 with
  | .get, plural :: name :: _ => (s.readOne ns plural name, s)
  | .get, plurals => (s.readAll ns (plurals.headD "") r.selector, s)
  | .post, _ => s.create ns (r.body.getD .null)

/-- How a request is written down, without what is selected. -/
def line (r : Request) : String := s!"{r.method.name} {r.path}"

/-- Takes one from the first fault that is for a request. -/
def takeFault (text : List Char) : List Fault → Option (Response × List Fault)
  | [] => none
  | f :: rest =>
    if 0 < f.times && f.start.toList.isPrefixOf text then
      some (f.response, { f with times := f.times - 1 } :: rest)
    else (takeFault text rest).map fun (response, rest) => (response, f :: rest)

/-- The answer to a request, and the server after it. -/
def answer (s : Server) (r : Request) : Response × Server :=
  let s := { s with requests := r :: s.requests }
  match takeFault (line r).toList s.faults with
  | some (response, faults) => (response, { s with faults })
  | none => s.serve r

end Server

end NodePki.Kube
