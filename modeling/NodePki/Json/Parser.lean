import NodePki.Encoding.Hex
import NodePki.Json.Basic
import NodePki.Text.Utf8

/-!
# Reading JSON

A strict reader: nothing but one value and blanks, numbers and escapes as the grammar has them.
Values may stand in each other as deep as they like.
-/

namespace NodePki.Json

/-- The blanks between tokens. -/
def isBlank (c : Char) : Bool := c == ' ' || c == '\t' || c == '\n' || c == '\r'

/-- Passes over blanks. -/
def skipBlanks (cs : List Char) : List Char := cs.dropWhile isBlank

/-- The number of four hexadecimal digits. -/
def hex4? : List Char → Option (Nat × List Char)
  | a :: b :: c :: d :: rest => do
    let a ← Hex.value? a
    let b ← Hex.value? b
    let c ← Hex.value? c
    let d ← Hex.value? d
    return (((a * 16 + b) * 16 + c) * 16 + d, rest)
  | _ => none

/-- The character of an escape by number, whose `\u` has been read; characters past `ffff` take two
escapes, and half of such a pair is none. -/
def escapedByNumber? (cs : List Char) : Option (Option Char × List Char) := do
  let (n, rest) ← hex4? cs
  if n < 0xd800 || 0xdfff < n then return (some (Char.ofNat n), rest)
  else if 0xdc00 ≤ n then return (none, rest)
  else
    match rest with
    | '\\' :: 'u' :: second =>
      let (m, afterPair) ← hex4? second
      if 0xdc00 ≤ m && m ≤ 0xdfff then
        return (some (Char.ofNat (0x10000 + (n - 0xd800) * 0x400 + (m - 0xdc00))), afterPair)
      else return (none, rest)
    | _ => return (none, rest)

/-- The character of an escape of one letter. -/
def escaped? : Char → Option Char
  | '"' => some '"'
  | '\\' => some '\\'
  | '/' => some '/'
  | 'b' => some '\x08'
  | 'f' => some '\x0c'
  | 'n' => some '\n'
  | 'r' => some '\r'
  | 't' => some '\t'
  | _ => none

/-- Reads a string whose opening quote has been read; halves of pairs are no characters. The first
argument bounds its length. -/
def stringTail? : Nat → List Char → Option (List (Option Char) × List Char)
  | 0, _ => none
  | _ + 1, [] => none
  | _ + 1, '"' :: rest => some ([], rest)
  | n + 1, '\\' :: 'u' :: rest => do
    let (c, rest) ← escapedByNumber? rest
    let (cs, rest) ← stringTail? n rest
    return (c :: cs, rest)
  | n + 1, '\\' :: e :: rest => do
    let c ← escaped? e
    let (cs, rest) ← stringTail? n rest
    return (some c :: cs, rest)
  | n + 1, c :: rest =>
    if c == '\\' || c.toNat < 0x20 then none
    else do
      let (cs, rest) ← stringTail? n rest
      return (some c :: cs, rest)

/-- Reads a string whose opening quote has been read, and its text if it has one. -/
def text? (cs : List Char) : Option (Option String × List Char) :=
  (stringTail? (cs.length + 1) cs).map fun (text, rest) =>
    ((text.mapM id).map String.ofList, rest)

/-- The object of some members, if all names can be read. -/
def ofMembers (members : List (Option String × Json)) : Json :=
  match members.mapM fun (name, j) => name.map fun name => (name, j) with
  | some members => object members
  | none => unreadable

/-- One or more digits. -/
def digits? (cs : List Char) : Option (List Char × List Char) :=
  match cs.span Char.isDigit with
  | ([], _) => none
  | parts => some parts

/-- The digits before the point: no zero leads others. -/
def whole? : List Char → Option (List Char × List Char)
  | '0' :: rest => some (['0'], rest)
  | cs => digits? cs

/-- The point and the digits after it, if there is a point. -/
def fraction? : List Char → Option (List Char × List Char)
  | '.' :: rest => (digits? rest).map fun (ds, rest) => ('.' :: ds, rest)
  | cs => some ([], cs)

/-- The power of ten, if there is one. -/
def exponent? : List Char → Option (List Char × List Char)
  | e :: rest =>
    if e == 'e' || e == 'E' then
      match rest with
      | s :: rest' =>
        if s == '+' || s == '-' then (digits? rest').map fun (ds, rest) => (e :: s :: ds, rest)
        else (digits? rest).map fun (ds, rest) => (e :: ds, rest)
      | [] => none
    else some ([], e :: rest)
  | [] => some ([], [])

/-- Reads a number. -/
def number? (cs : List Char) : Option (Json × List Char) := do
  let (sign, rest) :=
    match cs with
    | '-' :: rest => (['-'], rest)
    | _ => ([], cs)
  let (whole, rest) ← whole? rest
  let (part, rest) ← fraction? rest
  let (power, rest) ← exponent? rest
  return (number (String.ofList (sign ++ whole ++ part ++ power)), rest)

/-- Reads a word. -/
def word? (word : String) (value : Json) (cs : List Char) : Option (Json × List Char) :=
  if word.toList.isPrefixOf cs then some (value, cs.drop word.length) else none

mutual

/-- Reads a value; the first argument bounds the number of tokens. -/
def value? : Nat → List Char → Option (Json × List Char)
  | 0, _ => none
  | n + 1, cs =>
    match skipBlanks cs with
    | '"' :: rest => (text? rest).map fun (s, rest) => ((s.map string).getD unreadable, rest)
    | '[' :: rest =>
      match skipBlanks rest with
      | ']' :: rest => some (array [], rest)
      | rest => (items? n rest).map fun (js, rest) => (array js, rest)
    | '\x7b' :: rest =>
      match skipBlanks rest with
      | '\x7d' :: rest => some (object [], rest)
      | rest => (objectMembers? n rest).map fun (ms, rest) => (ofMembers ms, rest)
    | 't' :: rest => word? "rue" (bool true) rest
    | 'f' :: rest => word? "alse" (bool false) rest
    | 'n' :: rest => word? "ull" null rest
    | rest => number? rest

/-- Reads the items of an array up to its end. -/
def items? : Nat → List Char → Option (List Json × List Char)
  | 0, _ => none
  | n + 1, cs => do
    let (j, rest) ← value? n cs
    match skipBlanks rest with
    | ',' :: rest => (items? n rest).map fun (js, rest) => (j :: js, rest)
    | ']' :: rest => some ([j], rest)
    | _ => none

/-- Reads the members of an object up to its end. -/
def objectMembers? : Nat → List Char → Option (List (Option String × Json) × List Char)
  | 0, _ => none
  | n + 1, cs =>
    match skipBlanks cs with
    | '"' :: rest => do
      let (name, rest) ← text? rest
      match skipBlanks rest with
      | ':' :: rest =>
        let (j, rest) ← value? n rest
        match skipBlanks rest with
        | ',' :: rest =>
          (objectMembers? n rest).map fun (ms, rest) => ((name, j) :: ms, rest)
        | '\x7d' :: rest => some ([(name, j)], rest)
        | _ => none
      | _ => none
    | _ => none

end

/-- The value that a text writes. -/
def parse? (text : String) : Option Json := do
  let cs := text.toList
  let (j, rest) ← value? (2 * cs.length + 2) cs
  if (skipBlanks rest).isEmpty then return j else none

end NodePki.Json
