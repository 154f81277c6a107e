import NodePki.Encoding.Base64
import NodePki.Text.Split
import NodePki.Text.Utf8

/-!
# Octets between BEGIN and END lines

Writing one form, reading two:

* `encode`: base64 in lines of 64 characters between the two marker lines;
* `firstContents`: the first block of a bundle read line by line, whatever its label;
* `document?`: the first block by its markers, which need not stand on lines of their own but must
  carry one label.
-/

namespace NodePki.Pem

/-- Cuts a list into pieces of `size` elements; the last may be shorter. The first argument bounds
the number of pieces. -/
def pieces {α : Type} (size : Nat) : Nat → List α → List (List α)
  | 0, _ => []
  | _ + 1, [] => []
  | n + 1, l => l.take size :: pieces size n (l.drop size)

/-- The base64 lines of some octets. -/
def bodyLines (bs : Bytes) : List (List Char) :=
  let cs := Base64.encodeChars bs
  pieces 64 cs.length cs

/-- A block with its label and contents. -/
structure Block where
  label : String
  contents : Bytes
  deriving DecidableEq, Repr

/-- The marker that opens a block. -/
def beginMark : List Char := "-----BEGIN ".toList

/-- The marker that closes a block. -/
def endMark : List Char := "-----END ".toList

/-- What ends a marker. -/
def dashes : List Char := "-----".toList

/-- A block as text. -/
def Block.encode (b : Block) : String :=
  String.ofList <|
    beginMark ++ b.label.toList ++ dashes ++ ['\n'] ++
    (bodyLines b.contents).flatMap (fun line => line ++ ['\n']) ++
    endMark ++ b.label.toList ++ dashes ++ ['\n']

/-! ## Bundles, line by line -/

/-- The lines of some octets; each ends with a line feed, which is kept, or with the input. -/
def rawLines : Bytes → List Bytes
  | [] => []
  | b :: bs =>
    if b = 0x0a then [b] :: rawLines bs
    else
      match rawLines bs with
      | [] => [[b]]
      | line :: more => (b :: line) :: more

/-- Gathers the base64 lines up to the end marker. Without that marker, or with a line that is not
UTF-8 before it, there is no block. -/
def body? : List Bytes → Option (List Char)
  | [] => none
  | line :: more => do
    let text ← Utf8.decode? line
    if endMark.isPrefixOf text.toList then return []
    else
      let rest ← body? more
      return Text.trimEnd text.toList ++ rest

/-- Passes over the lines before the first begin marker. That marker must be closed by dashes. -/
def blockBody? : List Bytes → Option (List Char)
  | [] => none
  | line :: more => do
    let text ← Utf8.decode? line
    if beginMark.isPrefixOf text.toList then
      if Text.contains dashes (text.toList.drop dashes.length) then body? more else none
    else blockBody? more

/-- The contents of the first block. -/
def firstContents (bs : Bytes) : Option Bytes := do
  let chars ← blockBody? (rawLines bs)
  Base64.decodeGroups chars

/-! ## Documents, by their markers -/

/-- Looks for a marker from left to right, of which `found` characters have just been seen; a
character that does not fit starts the search anew after itself. Answers what came before the
marker, last character first, and what comes after it. -/
def searchFrom (marker : List Char) (found : Nat) (seen : List Char) :
    List Char → Option (List Char × List Char)
  | [] => none
  | c :: cs =>
    let found := if marker[found]? = some c then found + 1 else 0
    if found = marker.length then some ((c :: seen).drop marker.length, cs)
    else searchFrom marker found (c :: seen) cs

/-- What stands before and after a marker. -/
def search (marker cs : List Char) : Option (List Char × List Char) :=
  (searchFrom marker 0 [] cs).map fun (before, after) => (before.reverse, after)

/-- Blanks that may follow a marker. -/
def isGap (c : Char) : Bool := c == ' ' || c == '\t' || c == '\n' || c == '\r'

/-- Splits a body into its headers, which an empty line ends, and the rest. -/
def splitHeaders (body : List Char) : List Char × List Char :=
  match search ['\n', '\n'] body with
  | some parts => parts
  | none => (search ['\r', '\n', '\r', '\n'] body).getD ([], body)

/-- The first block of a text. Both markers carry one label, which is not empty; each header line
has a colon; blanks may stand anywhere in the base64 text. -/
def document? (text : String) : Option Block := do
  let (_, rest) ← search beginMark text.toList
  let (label, rest) ← search dashes rest
  let (body, rest) ← search endMark (rest.dropWhile isGap)
  let (closing, _) ← search dashes rest
  let (headers, data) := splitHeaders body
  if label.isEmpty || label != closing then none
  else if (Text.lines headers).all (·.contains ':') then
    let contents ← Base64.decodeChars (data.filter fun c => !Text.isBlank c)
    return ⟨String.ofList label, contents⟩
  else none

end NodePki.Pem
