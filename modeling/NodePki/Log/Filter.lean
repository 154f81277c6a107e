import NodePki.Config
import NodePki.Log.Event
import NodePki.Log.Pattern
import NodePki.Text.Alphanumeric
import NodePki.Text.Split

/-!
# Log filters

Which events are shown. A filter is a list of directives with commas between them; each gives a
threshold to the events of the parts of the program whose target begins as it says, or that have a
field of some name, or to all. Of the directives that are for an event the most specific one decides.

* `Directive.parse?`: reads one directive;
* `Filter.parse?`: a filter all of whose directives can be read;
* `Filter.readable`: the directives of a text that can be read;
* `Filter.ofSettings`: the filter of the program;
* `Filter.admits`: whether an event is shown.
-/

namespace NodePki.Log

/-- Down to which level events are shown; nothing shows none. -/
abbrev Threshold := Option Level

/-- Whether a level is within a threshold. -/
def Threshold.admits (t : Threshold) (level : Level) : Bool :=
  t.any fun last => level.rank ≤ last.rank

/-- The thresholds by their numbers. -/
def Threshold.numbered : List Threshold :=
  [none, some .error, some .warn, some .info, some .debug, some .trace]

/-- The name of a threshold. -/
def Threshold.name : Threshold → String
  | none => "OFF"
  | some level => level.name

/-- The threshold with a number, or with a name in letters of any case. -/
def Threshold.parse? (text : String) : Option Threshold :=
  match Config.number? text with
  | some n => Threshold.numbered[n]?
  | none => Threshold.numbered.find? fun t => t.name.toList = text.toList.map Char.toUpper

/-- What one directive says. -/
structure Directive where
  /-- How the targets begin that it is for; nothing is all. -/
  target : Option String
  /-- The span that events must be in. -/
  span : Option String
  /-- The field that events must have, as it is written: a name, or a name with a value. -/
  field : Option String
  threshold : Threshold
  deriving DecidableEq, Repr

namespace Directive

/-- A directive for all events of errors. -/
def errors : Directive := ⟨none, none, none, some .error⟩

/-- The characters between two positions of a text. -/
def between (text : List Char) (first last : Nat) : String :=
  String.ofList ((text.take last).drop first)

/-- The first of some marks at or after a position: which one, and where. -/
def nextMark? (marks text : List Char) (start : Nat) : Option (Char × Nat) :=
  ((text.drop start).findIdx? (marks.contains ·)).bind fun n =>
    text[start + n]?.map fun c => (c, start + n)

/-- Whether a directive can begin with a character: a letter, a digit, `-`, `:` or `_`. -/
def isOpening (c : Char) : Bool :=
  Alphanumeric.contains c || c == '-' || c == ':' || c == '_'

/-- The threshold written from a position to the end. A threshold left out shows everything. -/
def thresholdFrom? (text : List Char) (start : Nat) : Option Threshold :=
  match text.drop start with
  | [] => some (some .trace)
  | cs => Threshold.parse? (String.ofList cs)

/-- What may follow the bracket that closes a span: nothing, or a threshold. -/
def afterSpan? (text marked : List Char) (start : Nat) : Option Threshold :=
  match marked[start]? with
  | none => some (some .trace)
  | some '=' => thresholdFrom? text (start + 1)
  | some _ => none

/-- Whether a field is a name, or a name with something that values can be matched with between its
first equals sign and the next. -/
def isField (text : String) : Bool :=
  ((Text.splitOn '=' text.toList)[1]?).all Pattern.isValue

/-- A directive whose span begins at a position. -/
def spanFrom? (target : Option String) (text marked : List Char) (start : Nat) :
    Option Directive := do
  let (mark, i) ← nextMark? [']', '\x7b'] marked start
  if mark = ']' then
    let threshold ← afterSpan? text marked (i + 1)
    return ⟨target, some (between text start i), none, threshold⟩
  else
    let (_, j) ← nextMark? ['\x7d'] marked (i + 1)
    let field := between text (i + 1) j
    if j = i + 1 || marked[j + 1]? ≠ some ']' || !isField field then none
    let threshold ← afterSpan? text marked (j + 2)
    let span := if i = start then none else some (between text start i)
    return ⟨target, span, some field, threshold⟩

/-- Reads a directive: a threshold for all events, a target, a target or a span with a threshold
after an equals sign. The marks are looked for in the text without the blanks around it, and its
parts are what the text as it stands has at those places. -/
def parse? (text : List Char) : Option Directive := do
  let marked := Text.trim text
  let first ← marked.head?
  if first = '[' then spanFrom? none text marked 1
  else if !isOpening first then none
  else
    match nextMark? ['=', '['] marked 0 with
    | none =>
      let word := String.ofList text
      match Threshold.parse? word with
      | some threshold => return ⟨none, none, none, threshold⟩
      | none => return ⟨some word, none, none, some .trace⟩
    | some ('=', i) =>
      let threshold ← thresholdFrom? text (i + 1)
      return ⟨some (between text 0 i), none, none, threshold⟩
    | some (_, i) => spanFrom? (some (between text 0 i)) text marked (i + 1)

/-- Whether events are told apart without knowing the spans they are in or the values of fields. -/
def isStatic (d : Directive) : Bool :=
  d.span.isNone && d.field.all fun f => !f.toList.contains '='

/-- The field that every event has, besides its own. -/
def messageField : String := "message"

/-- Whether a directive is for an event. -/
def concerns (d : Directive) (e : Event) : Bool :=
  d.isStatic && d.target.all (fun start => start.toList.isPrefixOf e.target.toList) &&
    d.field.all fun f => f == messageField || e.fields.any fun (name, _) => name == f

/-- How specific a directive is: the length of its target, whether it names a field, and its field.
-/
def rank (d : Directive) : Nat × Nat × String :=
  (d.target.elim 0 (·.length + 1), d.field.elim 0 (fun _ => 1), d.field.getD "")

/-- Whether one directive decides before another that is read after it. -/
def outranks (a b : Directive) : Bool :=
  let (target, fields, field) := a.rank
  let (target', fields', field') := b.rank
  target' < target || target' = target && (fields' < fields || fields' = fields && field' < field)

end Directive

/-- Which events are shown. -/
structure Filter where
  directives : List Directive
  deriving DecidableEq, Repr

namespace Filter

/-- A filter of some directives; without any it shows errors. -/
def make (directives : List Directive) : Filter :=
  ⟨if directives.isEmpty then [.errors] else directives⟩

/-- The texts of the directives in a text. -/
def pieces (text : String) : List (List Char) :=
  (Text.splitOn ',' text.toList).filter fun piece => !piece.isEmpty

/-- The filter that a text writes, if every directive can be read. -/
def parse? (text : String) : Option Filter :=
  ((pieces text).mapM Directive.parse?).map make

/-- The filter of those directives of a text that can be read. -/
def readable (text : String) : Filter := make ((pieces text).filterMap Directive.parse?)

/-- The text of a filter that shows the events of all parts of the program down to a level. -/
def ownText (level : String) : String :=
  let level := String.ofList (level.toList.map Char.toLower)
  s!"node_certs_controller={level},node_certs={level}"

/-- The filter of the program: the one that is wished for, if there is a wish that can be read, and
else the one of a level. -/
def ofSettings (wish : Option String) (level : String) : Filter :=
  (wish.bind parse?).getD (readable (ownText level))

/-- The directive that decides about an event. -/
def deciding? (f : Filter) (e : Event) : Option Directive :=
  (f.directives.filter (·.concerns e)).foldl (fun best d =>
    match best with
    | none => some d
    | some b => if b.outranks d then some b else some d) none

/-- Whether an event is shown. -/
def admits (f : Filter) (e : Event) : Bool :=
  (f.deciding? e).any fun d => d.threshold.admits e.level

end Filter

end NodePki.Log
