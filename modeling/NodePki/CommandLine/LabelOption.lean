import NodePki.Text.Quoted
import NodePki.Text.Split

/-!
# Labels on the command line

A label is written `KEY=VALUE`. The key ends at the first equals sign and is not empty; the value is
all that follows.
-/

namespace NodePki.CommandLine

/-- Reads a label; a text that is none is answered with what was expected. -/
def parseLabel (text : String) : Except String (String × String) :=
  match Text.splitFirst '=' text.toList with
  | some (key, value) =>
    if key.isEmpty then .error s!"expected KEY=VALUE, got {Quoted.quote text}"
    else .ok (String.ofList key, String.ofList value)
  | none => .error s!"expected KEY=VALUE, got {Quoted.quote text}"

end NodePki.CommandLine
