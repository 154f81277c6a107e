import NodePki.Data.Dict
import NodePki.Json.Basic

/-!
# Settled values

A value of any form that is to be kept has to be settled first: all of it can be read, its numbers
are in the range of floating-point numbers of 64 bits, it is not too deep, and of several members
with one name only the last is left.
-/

namespace NodePki.Json

/-- How deep arrays and objects may stand in each other. -/
def maxDepth : Nat := 127

/-- The number that digits write; other characters are passed over. -/
def digitsValue (cs : List Char) : Nat :=
  (cs.filter Char.isDigit).foldl (fun n c => n * 10 + (c.toNat - 0x30)) 0

/-- The power of ten in the text of a number, without its letter. -/
def powerOf : List Char → Int
  | '-' :: ds => -digitsValue ds
  | ds => digitsValue ds

/-- The least number that is rounded to infinity. -/
def leastInfinite : Nat := Nat.pow 2 1024 - Nat.pow 2 970

/-- Whether a number is not too great in either direction. -/
def isFinite (text : String) : Bool :=
  let (digits, power) := text.toList.span fun c => c != 'e' && c != 'E'
  let n := digitsValue digits
  let places := ((digits.dropWhile (· != '.')).drop 1).length
  let shift := powerOf (power.drop 1) - places
  let size := (toString n).length + shift
  n = 0 || size < 309 ||
    (size = 309 && n * Nat.pow 10 shift.toNat < leastInfinite * Nat.pow 10 (-shift).toNat)

mutual

/-- The settled form of a value in which at most `depth` arrays and objects stand in each other. -/
def settle? (depth : Nat) : Json → Option Json
  | number text => if isFinite text then some (number text) else none
  | array items => if depth = 0 then none else (settleItems? (depth - 1) items).map array
  | object members =>
    if depth = 0 then none
    else (settleMembers? (depth - 1) members).map fun ms => object (Dict.ofList ms).entries
  | unreadable => none
  | j => some j

/-- The settled forms of the items of an array. -/
def settleItems? (depth : Nat) : List Json → Option (List Json)
  | [] => some []
  | j :: js => do return (← settle? depth j) :: (← settleItems? depth js)

/-- The settled forms of the members of an object. -/
def settleMembers? (depth : Nat) : List (String × Json) → Option (List (String × Json))
  | [] => some []
  | (name, j) :: ms => do return (name, ← settle? depth j) :: (← settleMembers? depth ms)

end

end NodePki.Json
