import NodePki.Der.Reader
import NodePki.San.GeneralName

/-!
# Reading other names

What the strict reader finds in the extension with the alternative names: the other names with text
values, in order. Names of other kinds are passed over; one malformed value refuses the whole.
-/

namespace NodePki

namespace OtherName

/-- Reads a value with the strict reader. -/
def readDer {α : Type} (r : Except Der.Error α) : Except Error α := r.mapError Error.der

/-- Reads the content of an other name. -/
def ofBody (body : Bytes) : Except Error OtherName := do
  let (oid, c) ← readDer (Der.Reader.oid ⟨0, body⟩)
  let ((tag, content), c) ← readDer (Der.Reader.any c)
  if !c.rest.isEmpty then throw (.parse (.trailingAfterOtherName oid))
  if tag ≠ otherNameTag then throw (.parse (.otherNameTag oid tag))
  let value ← readDer (Der.decode Der.Reader.utf8String content)
  return ⟨oid, value⟩

/-- Reads the other names among the values from a cursor to its end. The first argument bounds their
number. -/
def readEntries : Nat → Der.Cursor → Except Error (List OtherName)
  | 0, _ => .ok []
  | n + 1, c =>
    if c.rest.isEmpty then .ok []
    else do
      let ((tag, content), c) ← readDer (Der.Reader.any c)
      if tag = otherNameTag then
        let name ← ofBody content
        let names ← readEntries n c
        return name :: names
      else readEntries n c

/-- The other names of an extension value. -/
def readAll (value : Bytes) : Except Error (List OtherName) := do
  let (tag, content) ← readDer (Der.decode Der.Reader.any value)
  if tag ≠ .sequence then throw (.parse (.subjectAltNameTag tag))
  readEntries content.length ⟨0, content⟩

end OtherName

end NodePki
