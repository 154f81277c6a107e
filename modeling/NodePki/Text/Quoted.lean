import NodePki.Encoding.Hex
import NodePki.Text.Unprintable

/-!
# Quoted text

Text between double quotes as it stands in messages: quotes, backslashes and the usual controls are
written with a backslash, what has no visible form as `\u` with its number in braces, and everything
else as itself.
-/

namespace NodePki.Quoted

/-- A character by its number. -/
def byNumber (c : Char) : List Char :=
  ['\\', 'u', '\x7b'] ++ (Hex.ofNat c.toNat).toList ++ ['\x7d']

/-- Whether a character can stand for itself, quotes and backslashes aside. -/
def isVisible (c : Char) : Bool :=
  if c.toNat < 0x7f then 0x20 ≤ c.toNat else !Unprintable.contains c

/-- One character between the quotes. -/
def escape (c : Char) : List Char :=
  match c with
  | '\x00' => ['\\', '0']
  | '\t' => ['\\', 't']
  | '\r' => ['\\', 'r']
  | '\n' => ['\\', 'n']
  | '"' => ['\\', '"']
  | '\\' => ['\\', '\\']
  | c => if isVisible c then [c] else byNumber c

/-- A text between double quotes. -/
def quote (s : String) : String :=
  String.ofList ('"' :: s.toList.flatMap escape ++ ['"'])

end NodePki.Quoted
