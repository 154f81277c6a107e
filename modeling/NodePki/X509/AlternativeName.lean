import NodePki.X509.Certificate

/-!
# Alternative names as the lenient reader sees them

The entries of the extension with the alternative names. DNS names may be any text; an entry of an
unknown number, or one that does not have the form of its number, spoils the whole.
-/

namespace NodePki.X509

/-- An entry, as far as it matters here. -/
inductive AlternativeName
  | otherName (oid : Oid) (value : Bytes)
  | mail (text : String)
  | dnsName (text : String)
  | directory (name : Name)
  | uri (text : String)
  | ipAddress (octets : Bytes)
  | other (number : Nat) (content : Bytes)
  deriving DecidableEq, Repr

namespace AlternativeName

/-- The entry that a value of the context stands for, by its number. -/
def ofElement? (e : Element) : Option AlternativeName :=
  if e.cls ≠ Element.contextClass then none
  else
    match e.number with
    | 0 => (Element.primitive e.content).map fun (oid, value) => otherName ⟨oid⟩ value
    | 1 => (Utf8.decode? e.content).map mail
    | 2 => (Utf8.decode? e.content).map dnsName
    | 4 => (Reader.whole Name.read e.content).map directory
    | 6 => (Utf8.decode? e.content).map uri
    | 7 => some (ipAddress e.content)
    | 3 | 5 | 8 => some (other e.number e.content)
    | _ => none

/-- Reads an entry. -/
def read : Reader AlternativeName := do
  let e ← Element.read
  fun bs => (ofElement? e).map (·, bs)

/-- The entries of an extension value, after which octets may follow. -/
def ofExtension? (value : Bytes) : Option (List AlternativeName) := do
  let (e, _) ← Element.expect Element.sequenceNumber value
  Reader.all? read e.content

end AlternativeName

/-- The entries of a certificate's extension, or none if it has no such extension; it is refused to
have two. -/
def Certificate.alternativeNames? (c : Certificate) : Option (List AlternativeName) :=
  match c.extensionsOf .subjectAltName with
  | [] => some []
  | [e] => AlternativeName.ofExtension? e.value
  | _ => none

end NodePki.X509
