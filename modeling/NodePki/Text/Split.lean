/-!
# Pieces of text

Cutting lists of characters at a mark:

* `splitOn`: the pieces between the marks, always at least one;
* `splitFirst`: the two sides of the first mark;
* `lines`: the lines of a text, without their ends;
* `trimEnd`: a line without the blanks at its end.
-/

namespace NodePki.Text

/-- The pieces between the places where `mark` stands, of which there is one more than marks. -/
def splitOn {α : Type} [DecidableEq α] (mark : α) : List α → List (List α)
  | [] => [[]]
  | c :: cs =>
    if c = mark then [] :: splitOn mark cs
    else
      match splitOn mark cs with
      | [] => [[c]]
      | piece :: pieces => (c :: piece) :: pieces

/-- What stands before and after the first `mark`. -/
def splitFirst {α : Type} [DecidableEq α] (mark : α) : List α → Option (List α × List α)
  | [] => none
  | c :: cs =>
    if c = mark then some ([], cs)
    else (splitFirst mark cs).map fun (before, after) => (c :: before, after)

/-- What stands before and after the first place where `mark` begins. -/
def splitFirstOf {α : Type} [DecidableEq α] (mark : List α) : List α → Option (List α × List α)
  | [] => if mark.isEmpty then some ([], []) else none
  | c :: cs =>
    if mark.isPrefixOf (c :: cs) then some ([], (c :: cs).drop mark.length)
    else (splitFirstOf mark cs).map fun (before, after) => (c :: before, after)

/-- Whether a text holds `mark` somewhere. -/
def contains {α : Type} [DecidableEq α] (mark : List α) (cs : List α) : Bool :=
  (splitFirstOf mark cs).isSome

/-- The blanks of Unicode. -/
def isBlank (c : Char) : Bool :=
  let n := c.toNat
  (0x9 ≤ n && n ≤ 0xd) || n == 0x20 || n == 0x85 || n == 0xa0 || n == 0x1680 ||
    (0x2000 ≤ n && n ≤ 0x200a) || n == 0x2028 || n == 0x2029 || n == 0x202f || n == 0x205f ||
    n == 0x3000

/-- A text without the blanks at its end. -/
def trimEnd (cs : List Char) : List Char := (cs.reverse.dropWhile isBlank).reverse

/-- A text without the blanks at either end. -/
def trim (cs : List Char) : List Char := trimEnd (cs.dropWhile isBlank)

/-- A line without one carriage return at its end. -/
def dropReturn (line : List Char) : List Char :=
  if line.getLast? = some '\r' then line.dropLast else line

/-- The lines of a text: each ends with a line feed or with the text, and a carriage return before
a line feed is no part of the line. -/
def lines (cs : List Char) : List (List Char) :=
  let pieces := splitOn '\n' cs
  let ended := pieces.dropLast.map dropReturn
  match pieces.getLast? with
  | some (c :: line) => ended ++ [c :: line]
  | _ => ended

/-- The strings of a list with `separator` between them. -/
def join (separator : String) (parts : List String) : String := separator.intercalate parts

end NodePki.Text
