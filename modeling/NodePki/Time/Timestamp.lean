import NodePki.Text.Split
import NodePki.Time.Civil

/-!
# Timestamps

Moments as objects of the cluster hold them: a date, a time of day and the offset of a zone. Reading
is lenient about blanks, about the number of digits and about the form of the zone. Writing has one
form, in universal time and without fractions of a second.
-/

namespace NodePki

/-- A moment in universal time. Second 60 is one that is put in at the end of a minute. -/
structure Timestamp where
  date : Date
  hour : Nat
  minute : Nat
  second : Nat
  deriving DecidableEq, Repr

namespace Timestamp

/-- Passes over blanks. -/
def skipBlanks (cs : List Char) : List Char := cs.dropWhile Text.isBlank

/-- Reads at least one digit and at most `limit`. -/
def digits? (limit : Nat) (cs : List Char) : Option (Nat × List Char) :=
  let ds := (cs.take limit).takeWhile Char.isDigit
  if ds.isEmpty then none
  else some (ds.foldl (fun n c => n * 10 + (c.toNat - 0x30)) 0, cs.drop ds.length)

/-- Reads a number of one or two digits. -/
def two? (cs : List Char) : Option (Nat × List Char) := digits? 2 (skipBlanks cs)

/-- Reads a mark. -/
def mark? (mark : Char) (cs : List Char) : Option (List Char) :=
  match skipBlanks cs with
  | c :: rest => if c = mark then some rest else none
  | [] => none

/-- Reads a year, of at most four digits unless it has a sign. -/
def year? (cs : List Char) : Option (Int × List Char) :=
  match skipBlanks cs with
  | '-' :: rest => (digits? rest.length rest).map fun (n, rest) => (-n, rest)
  | '+' :: rest => (digits? rest.length rest).map fun (n, rest) => (n, rest)
  | rest => (digits? 4 rest).map fun (n, rest) => (n, rest)

/-- The years that have dates. -/
def isYear (year : Int) : Bool := -262143 ≤ year && year ≤ 262142

/-- Reads a date. -/
def date? (cs : List Char) : Option (Date × List Char) := do
  let (year, cs) ← year? cs
  let (month, cs) ← two? (← mark? '-' cs)
  let (day, cs) ← two? (← mark? '-' cs)
  let date : Date := ⟨year, month, day⟩
  if isYear year && date.isValid then return (date, cs) else none

/-- Reads the mark between date and time. -/
def separator? : List Char → Option (List Char)
  | c :: rest => if c = 't' || c = 'T' || c = ' ' then some rest else none
  | [] => none

/-- Passes over a fraction of a second, which may be missing. -/
def fraction? : List Char → Option (List Char)
  | '.' :: rest => (digits? rest.length rest).map (·.2)
  | rest => some rest

/-- Reads hour, minute and second. -/
def clock? (cs : List Char) : Option ((Nat × Nat × Nat) × List Char) := do
  let (hour, cs) ← two? cs
  let (minute, cs) ← two? (← mark? ':' cs)
  let (second, cs) ← two? (← mark? ':' cs)
  let cs ← fraction? cs
  if hour ≤ 23 && minute ≤ 59 && second ≤ 60 then return ((hour, minute, second), cs) else none

/-- Reads exactly two digits. -/
def pair? : List Char → Option (Nat × List Char)
  | a :: b :: rest =>
    if a.isDigit && b.isDigit then some ((a.toNat - 0x30) * 10 + (b.toNat - 0x30), rest) else none
  | _ => none

/-- Reads the offset of a zone in minutes, which is less than a day. Colons and blanks may stand
between its hours and minutes. -/
def offset? (cs : List Char) : Option (Int × List Char) := do
  match cs with
  | [] => none
  | sign :: rest =>
    let (hours, rest) ← pair? rest
    let (minutes, rest) ← pair? (rest.dropWhile fun c => c = ':' || Text.isBlank c)
    if 23 < hours || 59 < minutes then none
    else
      let n : Int := hours * 60 + minutes
      if sign = '+' then return (n, rest)
      else if sign = '-' || sign = '\u2212' then return (-n, rest)
      else none

/-- Reads a zone: a name of universal time or an offset. -/
def zone? (cs : List Char) : Option (Int × List Char) :=
  match cs with
  | 'Z' :: rest | 'z' :: rest => some (0, rest)
  | _ =>
    if (cs.take 3).map Char.toUpper = ['U', 'T', 'C'] then some (0, cs.drop 3) else offset? cs

/-- The moment of a date and a time of day in a zone. -/
def ofLocal? (date : Date) (hour minute second : Nat) (offset : Int) : Option Timestamp :=
  let minutes : Int := date.toDays * 1440 + hour * 60 + minute - offset
  let inDay := (minutes % 1440).toNat
  let date := Date.ofDays (minutes / 1440)
  if isYear date.year then some ⟨date, inDay / 60, inDay % 60, second⟩ else none

/-- The moment that a text writes. -/
def read? (text : String) : Option Timestamp := do
  let (date, cs) ← date? text.toList
  let ((hour, minute, second), cs) ← clock? (← separator? cs)
  let (offset, cs) ← zone? (skipBlanks cs)
  if (skipBlanks cs).isEmpty then ofLocal? date hour minute second offset else none

/-- A number with zeros before it up to a width. -/
def padded (width n : Nat) : String :=
  let ds := toString n
  String.ofList (List.replicate (width - ds.length) '0') ++ ds

/-- A year: four digits, or a sign and at least four digits. -/
def yearText (year : Int) : String :=
  if 0 ≤ year ∧ year ≤ 9999 then padded 4 year.toNat
  else (if year < 0 then "-" else "+") ++ padded 4 year.natAbs

/-- The text of a moment. -/
def text (t : Timestamp) : String :=
  yearText t.date.year ++ "-" ++ padded 2 t.date.month ++ "-" ++ padded 2 t.date.day ++ "T" ++
    padded 2 t.hour ++ ":" ++ padded 2 t.minute ++ ":" ++ padded 2 t.second ++ "Z"

end Timestamp

end NodePki
