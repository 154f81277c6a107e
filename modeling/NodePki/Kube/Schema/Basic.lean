import NodePki.Json.Settled
import NodePki.Time.Timestamp

/-!
# Schemas of objects

What the members of an object may hold. An object is read only if all its known members fit, also
those that the program makes no use of. A member may always be missing or null, and unknown members
are passed over; the items of an array and the values of a map have to be there.
-/

namespace NodePki.Kube

/-- What a value may be. -/
inductive Schema
  | text
  | flag
  /-- A whole number that is kept in so many bits, one of them for the sign. -/
  | int (bits : Nat)
  /-- A number of 32 bits, or the name of one. -/
  | intOrText
  | time
  /-- A value of any form. -/
  | any
  | array (items : Schema)
  | map (values : Schema)
  | object (members : List (String × Schema))
  deriving Repr, Inhabited

namespace Schema

/-- Texts in an array. -/
abbrev texts : Schema := array text

/-- A map of texts. -/
abbrev textMap : Schema := map text

/-- An amount with a unit, which is a text here. -/
abbrev quantity : Schema := text

/-- Numbers of 32 bits. -/
abbrev int32 : Schema := int 32

/-- Numbers of 64 bits. -/
abbrev int64 : Schema := int 64

/-- Objects in an array. -/
abbrev objects (members : List (String × Schema)) : Schema := array (object members)

/-- Whether a number is whole and fits into so many bits. -/
def fitsInt (bits : Nat) (j : Json) : Bool :=
  j.int?.any fun n => -Int.pow 2 (bits - 1) ≤ n && n < Int.pow 2 (bits - 1)

mutual

/-- Whether a value fits. -/
def admits : Schema → Json → Bool
  | text, j => j.string?.isSome
  | flag, j => j.bool?.isSome
  | int bits, j => fitsInt bits j
  | intOrText, j => j.string?.isSome || fitsInt 32 j
  | time, j => (j.string?.bind Timestamp.read?).isSome
  | any, j => (j.settle? Json.maxDepth).isSome
  | array items, j => j.array?.any fun js => js.all fun item => admits items item
  | map values, j => j.members?.any fun ms => ms.all fun m => admits values m.2
  | object members, j =>
    j.members?.any fun ms => ms.all fun m => m.2.isNull || admitsMember members m.1 m.2

/-- Whether a member of an object fits, if it is known. -/
def admitsMember : List (String × Schema) → String → Json → Bool
  | [], _, _ => true
  | (known, schema) :: rest, name, j =>
    if known = name then admits schema j else admitsMember rest name j

end

end Schema

end NodePki.Kube
