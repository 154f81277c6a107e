import NodePki.Text.Utf8
import NodePki.Time.Civil
import NodePki.X509.Element

/-!
# Times of certificates

A time as a certificate writes it: a date, a time of day and the offset of its zone. The two written
forms are one with two digits of the year and any zone, and one with four in universal time.
-/

namespace NodePki.X509

/-- A time with the offset of its zone in minutes. -/
structure Time where
  date : Date
  hour : Nat
  minute : Nat
  second : Nat
  offset : Int
  deriving DecidableEq, Repr

namespace Time

/-- The number that two digits write. -/
def twoDigits? (a b : Char) : Option Nat :=
  if a.isDigit && b.isDigit then some ((a.toNat - 0x30) * 10 + (b.toNat - 0x30)) else none

/-- Reads two digits. -/
def two? : List Char → Option (Nat × List Char)
  | a :: b :: rest => (twoDigits? a b).map (·, rest)
  | _ => none

/-- Reads the seconds, which may be missing where only one character follows. -/
def seconds? : List Char → Option (Nat × List Char)
  | [] => none
  | [c] => some (0, [c])
  | cs => two? cs

/-- The offset of a zone in minutes. The sign is that of the hours, so that none of them have none. -/
def zone? : List Char → Option Int
  | ['Z'] => some 0
  | [sign, a, b, c, d] => do
    let hours ← twoDigits? a b
    let minutes ← twoDigits? c d
    if 25 < hours || 59 < minutes then none
    else
      let n : Int := hours * 60 + minutes
      if sign = '+' then some n
      else if sign = '-' then some (if hours = 0 then n else -n)
      else none
  | _ => none

/-- Passes over a fraction of a second of at most three digits, which may be missing. -/
def fraction? : List Char → Option (List Char)
  | '.' :: rest =>
    let digits := rest.takeWhile Char.isDigit
    if 3 < digits.length then none else some (rest.drop digits.length)
  | cs => some cs

/-- A time whose parts are in their ranges. -/
def make? (year : Int) (month day hour minute second : Nat) (offset : Int) : Option Time :=
  let date : Date := ⟨year, month, day⟩
  if date.isValid && hour ≤ 23 && minute ≤ 59 && second ≤ 59 then
    some ⟨date, hour, minute, second, offset⟩
  else none

/-- Reads `YYMMDDhhmm`, perhaps seconds, and a zone; years below 50 are of this century. -/
def short? (cs : List Char) : Option Time := do
  let (year, cs) ← two? cs
  let (month, cs) ← two? cs
  let (day, cs) ← two? cs
  let (hour, cs) ← two? cs
  let (minute, cs) ← two? cs
  let (second, cs) ← seconds? cs
  let offset ← zone? cs
  make? (if year < 50 then 2000 + year else 1900 + year) month day hour minute second offset

/-- Reads `YYYYMMDDhhmm`, perhaps seconds and a fraction of them, and the mark of universal time. -/
def long? (cs : List Char) : Option Time := do
  let (century, cs) ← two? cs
  let (year, cs) ← two? cs
  let (month, cs) ← two? cs
  let (day, cs) ← two? cs
  let (hour, cs) ← two? cs
  let (minute, cs) ← two? cs
  let (second, cs) ← seconds? cs
  let cs ← fraction? cs
  if cs = ['Z'] then make? (century * 100 + year) month day hour minute second 0 else none

/-- Octets as ASCII characters. -/
def characters (bs : Bytes) : List Char := bs.map fun b => Char.ofNat b.toNat

/-- Reads a time in either form. -/
def read : Reader Time := do
  let e ← Element.read
  if e.number = 23 then fun bs => (short? (characters e.content)).map (·, bs)
  else if e.number = 24 then fun bs => (long? (characters e.content)).map (·, bs)
  else fun _ => none

/-- Seconds from the start of 1970. -/
def toSeconds (t : Time) : Int :=
  t.date.toDays * 86400 + t.hour * 3600 + t.minute * 60 + t.second - t.offset * 60

/-- The names of the months. -/
def monthNames : List String :=
  ["Jan", "Feb", "Mar", "Apr", "May", "Jun", "Jul", "Aug", "Sep", "Oct", "Nov", "Dec"]

/-- A number with at least two digits. -/
def twoDigits (n : Nat) : String := if n < 10 then s!"0{n}" else toString n

/-- A number of at least two characters. -/
def twoColumns (n : Nat) : String := if n < 10 then s!" {n}" else toString n

/-- The text of a time in its own zone. -/
def text (t : Time) : String :=
  let month := monthNames.getD (t.date.month - 1) ""
  let clock := s!"{twoDigits t.hour}:{twoDigits t.minute}:{twoDigits t.second}"
  let sign := if t.offset < 0 then "-" else "+"
  let away := t.offset.natAbs
  let zone := s!"{sign}{twoDigits (away / 60)}:{twoDigits (away % 60)}"
  s!"{month} {twoColumns t.date.day} {clock} {t.date.year} {zone}"

end Time

end NodePki.X509
