import NodePki.Text.Alphanumeric
import NodePki.Text.Split

/-!
# Patterns for the values of fields

Which texts are patterns that a value can be matched with: regular expressions with groups, sets of
characters, repetitions and flags. A pattern stands between braces and holds no closing one, so
nothing that needs one can be written: no count of repetitions, and no number or name in braces.
Matching knows no neighbours that it has not read, so there are no bounds of words beyond ASCII.

* `isPattern`: whether a text is a pattern;
* `isValue`: whether a text is a value to match with, a number or a pattern.
-/

namespace NodePki.Log.Pattern

/-- What one character or escape stands for. -/
inductive Atom
  | literal (c : Char)
  | set
  /-- The start or the end of a text. -/
  | position
  /-- The bound of a word. -/
  | wordBound
  deriving DecidableEq, Repr

/-- The characters with a meaning of their own. -/
def isMeta (c : Char) : Bool := "\\.+*?()|[]\x7b\x7d^$#&-~".toList.contains c

/-- Whether a character stands for itself after a backslash. -/
def isEscapable (c : Char) : Bool :=
  isMeta c || (c.toNat < 0x80 && !c.isAlphanum && c != '<' && c != '>')

/-- The characters of escapes of one letter. -/
def escapedLetters : List (Char × Char) := [
  ('a', '\x07'), ('f', '\x0c'), ('t', '\t'), ('n', '\n'), ('r', '\r'), ('v', '\x0b')]

/-- How many digits an escape by number has. -/
def numberSize : Char → Nat
  | 'x' => 2
  | 'u' => 4
  | _ => 8

/-- The value of a hexadecimal digit. -/
def hexValue? (c : Char) : Option Nat :=
  if c.isDigit then some (c.toNat - 0x30)
  else if 'a' ≤ c ∧ c ≤ 'f' then some (c.toNat - 0x57)
  else if 'A' ≤ c ∧ c ≤ 'F' then some (c.toNat - 0x37)
  else none

/-- Reads the digits of an escape by number. -/
def byNumber? (size : Nat) (cs : List Char) : Option (Atom × List Char) := do
  let ds ← (cs.take size).mapM hexValue?
  let n := ds.foldl (fun n d => n * 16 + d) 0
  if ds.length = size && (n < 0xd800 || (0xdfff < n && n < 0x110000)) then
    return (.literal (Char.ofNat n), cs.drop size)
  else none

/-- Reads what follows a backslash. -/
def escape? : List Char → Option (Atom × List Char)
  | [] => none
  | c :: rest =>
    if c = 'x' || c = 'u' || c = 'U' then byNumber? (numberSize c) rest
    else if c = 'p' || c = 'P' then
      match rest with
      | kind :: rest => if "clmnpsz".toList.contains kind.toLower then some (.set, rest) else none
      | [] => none
    else if "dswDSW".toList.contains c then some (.set, rest)
    else if isEscapable c then some (.literal c, rest)
    else if c = 'A' || c = 'z' then some (.position, rest)
    else if c = 'b' || c = 'B' || c = '<' || c = '>' then some (.wordBound, rest)
    else (escapedLetters.find? (·.1 = c)).map fun e => (.literal e.2, rest)

/-! ## Sets of characters -/

/-- The names of sets that can stand in a set. -/
def setNames : List String := [
  "alnum", "alpha", "ascii", "blank", "cntrl", "digit", "graph", "lower", "print", "punct", "space",
  "upper", "word", "xdigit"]

/-- Passes over a name of a set with its colons and the bracket that closes it; the opening one has
been read. -/
def namedSet? : List Char → Option (List Char)
  | ':' :: rest => do
    let rest := if rest.head? = some '^' then rest.drop 1 else rest
    let (name, rest) := rest.span (· != ':')
    if setNames.contains (String.ofList name) && [':', ']'].isPrefixOf rest then
      return rest.drop 2
    else none
  | _ => none

/-- What is left after the start of a set, whose bracket has been read: a caret, then hyphens or a
closing bracket that stand for themselves. Something has to be left. -/
def setStart? (cs : List Char) : Option (List Char) :=
  let cs := if cs.head? = some '^' then cs.drop 1 else cs
  let cs :=
    match cs with
    | ']' :: rest => rest
    | _ => cs.dropWhile (· = '-')
  if cs.isEmpty then none else some cs

/-- Reads one member of a set. -/
def setItem? : List Char → Option (Atom × List Char)
  | '\\' :: rest => escape? rest
  | c :: rest => some (.literal c, rest)
  | [] => none

/-- Reads a member or a range of a set. -/
def setRange? (cs : List Char) : Option (List Char) := do
  let (first, rest) ← setItem? cs
  match rest with
  | [] => none
  | '-' :: last =>
    if last.head? = some ']' || last.head? = some '-' then
      if first = .position || first = .wordBound then none else return rest
    else
      let (second, rest) ← setItem? last
      match first, second with
      | .literal a, .literal b => if a ≤ b then return rest else none
      | _, _ => none
  | _ => if first = .position || first = .wordBound then none else return rest

/-- Passes over a set up to the bracket that closes it; `depth` sets are open. The first argument
bounds the number of members. -/
def setRest? : Nat → (depth : Nat) → List Char → Option (List Char)
  | 0, _, _ => none
  | n + 1, depth, cs =>
    match cs with
    | [] => none
    | '[' :: rest =>
      match namedSet? rest with
      | some rest => setRest? n depth rest
      | none => (setStart? rest).bind (setRest? n (depth + 1))
    | ']' :: rest => if depth ≤ 1 then some rest else setRest? n (depth - 1) rest
    | '&' :: '&' :: rest | '-' :: '-' :: rest | '~' :: '~' :: rest => setRest? n depth rest
    | cs => (setRange? cs).bind (setRest? n depth)

/-- Passes over a set whose opening bracket has been read. -/
def set? (cs : List Char) : Option (List Char) :=
  (setStart? cs).bind fun rest => setRest? (rest.length + 1) 1 rest

/-! ## Groups -/

/-- Where reading stands in a pattern. -/
structure State where
  /-- Whether characters are those of Unicode, here and in the groups around, innermost first. -/
  unicode : List Bool
  /-- Whether something has just been read that can be repeated. -/
  repeatable : Bool
  /-- The names of the groups so far. -/
  names : List (List Char)

namespace State

/-- The state at the start. -/
def start : State := ⟨[true], false, []⟩

/-- After something that can be repeated. -/
def afterItem (s : State) : State := { s with repeatable := true }

/-- In a new group. -/
def opened (s : State) (unicode : Bool) : State :=
  { s with unicode := unicode :: s.unicode, repeatable := false }

/-- Whether characters are those of Unicode. -/
def isUnicode (s : State) : Bool := s.unicode.headD true

end State

/-- Whether a text is the name of a group. -/
def isName : List Char → Bool
  | [] => false
  | c :: cs =>
    (c == '_' || Alphanumeric.contains c && !c.isDigit) &&
      cs.all fun c => "_.[]".toList.contains c || Alphanumeric.contains c

/-- The flags before the mark that ends them: whether one says that characters are those of Unicode,
if it says so. No flag stands twice, and a hyphen that turns flags off stands before one. -/
def flags? (flags : List Char) : Option (Option Bool) :=
  if flags.all ("imsUuRx-".toList.contains ·) && flags.eraseDups = flags &&
      flags.getLast? ≠ some '-' then
    let (on, off) := flags.span (· != '-')
    some (if on.contains 'u' then some true else if off.contains 'u' then some false else none)
  else none

/-- Reads the start of a group, whose parenthesis has been read, or flags. -/
def group? (s : State) (cs : List Char) : Option (State × List Char) :=
  match cs with
  | '?' :: '=' :: _ | '?' :: '!' :: _ | '?' :: '<' :: '=' :: _ | '?' :: '<' :: '!' :: _ => none
  | '?' :: 'P' :: '<' :: rest | '?' :: '<' :: rest =>
    let (name, rest) := rest.span (· != '>')
    if isName name && !s.names.contains name && !rest.isEmpty then
      some ({ s.opened s.isUnicode with names := name :: s.names }, rest.drop 1)
    else none
  | '?' :: rest => do
    let (flags, rest) := rest.span fun c => c != ':' && c != ')'
    let unicode := (← flags? flags).getD s.isUnicode
    match rest with
    | ':' :: rest => return (s.opened unicode, rest)
    | ')' :: rest =>
      if flags.isEmpty then none
      else return ({ s with unicode := unicode :: s.unicode.drop 1, repeatable := false }, rest)
    | _ => none
  | _ => some (s.opened s.isUnicode, cs)

/-- Reads one part of a pattern. -/
def step? (s : State) : List Char → Option (State × List Char)
  | [] => none
  | '(' :: rest => group? s rest
  | ')' :: rest =>
    if s.unicode.length ≤ 1 then none
    else some ({ s with unicode := s.unicode.drop 1, repeatable := true }, rest)
  | '|' :: rest => some ({ s with repeatable := false }, rest)
  | '[' :: rest => (set? rest).map (s.afterItem, ·)
  | '\x7b' :: _ => none
  | '\\' :: rest => do
    let (atom, rest) ← escape? rest
    if atom = .wordBound && s.isUnicode then none else return (s.afterItem, rest)
  | c :: rest =>
    if c = '?' || c = '*' || c = '+' then
      if s.repeatable then some (s, if rest.head? = some '?' then rest.drop 1 else rest) else none
    else some (s.afterItem, rest)

/-- Whether a pattern goes on to its end from a state; the first argument bounds its parts. -/
def goesOn : Nat → State → List Char → Bool
  | _, s, [] => s.unicode.length == 1
  | 0, _, _ => false
  | n + 1, s, cs =>
    match step? s cs with
    | some (s, rest) => goesOn n s rest
    | none => false

/-- Whether a text is a pattern. -/
def isPattern (text : List Char) : Bool := goesOn text.length .start text

/-! ## Values -/

/-- Whether digits with at most one point among them write a number, perhaps with a power of ten. -/
def isDecimal (cs : List Char) : Bool :=
  let (digits, power) := cs.span fun c => c != 'e' && c != 'E'
  let exponent :=
    match power.drop 1 with
    | '+' :: ds | '-' :: ds | ds => ds
  (digits.filter (· != '.')).all Char.isDigit && digits.any Char.isDigit &&
    digits.count '.' ≤ 1 && (power.isEmpty || (!exponent.isEmpty && exponent.all Char.isDigit))

/-- Whether a text is a number with a plus sign, which alone among the numbers is no pattern. -/
def isSignedNumber : List Char → Bool
  | '+' :: cs =>
    isDecimal cs || ["inf", "infinity", "nan"].contains (String.ofList (cs.map Char.toLower))
  | _ => false

/-- Whether a text is a value to match with. -/
def isValue (text : List Char) : Bool := isSignedNumber text || isPattern text

end NodePki.Log.Pattern
