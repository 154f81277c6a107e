/-!
# JSON values

Values as they are written: numbers keep their text, and objects all their members in order, also
those of one name. An escape can write half of a pair that stands for a character; what holds one is
a value that can be passed over and not be read.
-/

namespace NodePki

/-- A JSON value. -/
inductive Json
  | null
  | bool (b : Bool)
  | number (text : String)
  | string (s : String)
  | array (items : List Json)
  | object (members : List (String × Json))
  /-- A string, or an object with a name, that holds half of a pair. -/
  | unreadable
  deriving Repr, Inhabited

namespace Json

/-- The value of a member; of several with one name the last counts. -/
def field? (j : Json) (name : String) : Option Json :=
  match j with
  | object members => (members.reverse.find? (·.1 = name)).map (·.2)
  | _ => none

/-- The values of all members with a name, in order. -/
def values (j : Json) (name : String) : List Json :=
  match j with
  | object members => (members.filter (·.1 = name)).map (·.2)
  | _ => []

/-- The text of a string. -/
def string? : Json → Option String
  | string s => some s
  | _ => none

/-- The value of a truth value. -/
def bool? : Json → Option Bool
  | bool b => some b
  | _ => none

/-- The items of an array. -/
def array? : Json → Option (List Json)
  | array items => some items
  | _ => none

/-- The members of an object. -/
def members? : Json → Option (List (String × Json))
  | object members => some members
  | _ => none

/-- The value of a number that is written with digits alone. -/
def nat? : Json → Option Nat
  | number text =>
    text.toList.foldlM
      (fun n c => if c.isDigit then some (n * 10 + (c.toNat - 0x30)) else none) 0
  | _ => none

/-- The value of a number that is written with digits alone, after at most one minus sign, which
stands before no zero. -/
def int? : Json → Option Int
  | number text =>
    match text.toList with
    | ['-', '0'] => none
    | '-' :: cs => (nat? (number (String.ofList cs))).map fun n => -n
    | _ => (nat? (number text)).map Int.ofNat
  | _ => none

/-- A number without fraction. -/
def ofNat (n : Nat) : Json := number (toString n)

/-- A number without fraction. -/
def ofInt (n : Int) : Json := number (toString n)

/-- Whether a value is null. -/
def isNull : Json → Bool
  | null => true
  | _ => false

/-- An object of the members that have a value. -/
def objectOfPresent (members : List (String × Option Json)) : Json :=
  object (members.filterMap fun m => m.2.map (m.1, ·))

mutual

/-- Whether two values are the same. -/
def same : Json → Json → Bool
  | null, null => true
  | bool a, bool b => a == b
  | number a, number b => a == b
  | string a, string b => a == b
  | array as, array bs => sameItems as bs
  | object as, object bs => sameMembers as bs
  | unreadable, unreadable => true
  | _, _ => false

/-- Whether two lists of items are the same. -/
def sameItems : List Json → List Json → Bool
  | [], [] => true
  | a :: as, b :: bs => same a b && sameItems as bs
  | _, _ => false

/-- Whether two lists of members are the same. -/
def sameMembers : List (String × Json) → List (String × Json) → Bool
  | [], [] => true
  | (m, a) :: as, (n, b) :: bs => m == n && same a b && sameMembers as bs
  | _, _ => false

end

mutual

theorem same_iff (a b : Json) : same a b = true ↔ a = b := by
  cases a <;> cases b <;> simp [same, sameItems_iff, sameMembers_iff]

theorem sameItems_iff (as bs : List Json) : sameItems as bs = true ↔ as = bs := by
  cases as with
  | nil => cases bs <;> simp [sameItems]
  | cons a as => cases bs <;> simp [sameItems, same_iff a, sameItems_iff as]

theorem sameMembers_iff (as bs : List (String × Json)) :
    sameMembers as bs = true ↔ as = bs := by
  cases as with
  | nil => cases bs <;> simp [sameMembers]
  | cons a as =>
    obtain ⟨m, a⟩ := a
    cases bs <;> simp [sameMembers, same_iff a, sameMembers_iff as, Prod.ext_iff]

end

instance : DecidableEq Json := fun a b => decidable_of_iff _ (same_iff a b)

end Json

end NodePki
