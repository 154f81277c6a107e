import Mathlib.Data.List.TakeWhile
import NodePki.Proofs.Encoding.Pem
import NodePki.Proofs.Text.Split

/-!
# The first block of a bundle

Bundles are read line by line. A block at the start of a bundle is read back, however its base64 text
is cut into lines and however these end, and whatever octets come after it (`firstContents_text`);
only its last line has to be ended. Each line is cut off at its line feed (`rawLines_line`), no line
of base64 is taken for the end marker (`body?_lines`), and the blanks at its end are dropped.
-/

namespace NodePki

namespace Utf8

/-- The octet of a line feed stands in no other character. -/
theorem feed_mem_encodeChar_iff {c : Char} : 0x0a ∈ encodeChar c ↔ c = '\n' := by
  constructor
  · intro h
    have hvalid := toNat_valid c
    have hoctet : ∀ n, (0x0a : UInt8) = UInt8.ofNat n ↔ 10 = n % 256 := fun n => by
      rw [← UInt8.toNat_inj, UInt8.toNat_ofNat']
      rfl
    refine Char.toNat_inj.1 (show c.toNat = 10 from ?_)
    simp only [encodeChar] at h
    repeat' split at h
    all_goals
      simp only [List.mem_cons, List.not_mem_nil, or_false, hoctet] at h
      omega
  · rintro rfl
    decide

end Utf8

namespace Pem

/-! ## Lines -/

/-- What ends a line. -/
inductive LineEnd
  | feed
  | returnFeed
  deriving DecidableEq, Repr

namespace LineEnd

/-- The end as text. -/
def chars : LineEnd → List Char
  | feed => ['\n']
  | returnFeed => ['\r', '\n']

theorem exists_chars (e : LineEnd) : ∃ before, e.chars = before ++ ['\n'] ∧ '\n' ∉ before := by
  cases e with
  | feed => exact ⟨[], rfl, List.not_mem_nil⟩
  | returnFeed => exact ⟨['\r'], rfl, by decide⟩

theorem getLast?_chars (e : LineEnd) : e.chars.getLast? = some '\n' := by
  cases e <;> rfl

theorem isBlank_of_mem {e : LineEnd} : ∀ c ∈ e.chars, Text.isBlank c := by
  cases e with
  | feed => exact List.forall_mem_singleton.2 rfl
  | returnFeed => exact List.forall_mem_cons.2 ⟨rfl, List.forall_mem_singleton.2 rfl⟩

theorem dash_not_mem (e : LineEnd) : '-' ∉ e.chars := by
  cases e <;> decide

end LineEnd

/-- Octets up to a line feed are a line. -/
theorem rawLines_append {line : Bytes} (h : 0x0a ∉ line) (bs : Bytes) :
    rawLines (line ++ 0x0a :: bs) = (line ++ [0x0a]) :: rawLines bs := by
  induction line with
  | nil => rw [List.nil_append, rawLines, if_pos rfl]; rfl
  | cons b line ih =>
    rw [List.mem_cons, not_or] at h
    rw [List.cons_append, rawLines, if_neg (Ne.symm h.1), ih h.2]
    rfl

/-- A line of text is a line of its octets. -/
theorem rawLines_line {line : List Char} (h : '\n' ∉ line) (e : LineEnd) (bs : Bytes) :
    rawLines ((line ++ e.chars).flatMap Utf8.encodeChar ++ bs) =
      (line ++ e.chars).flatMap Utf8.encodeChar :: rawLines bs := by
  obtain ⟨before, hchars, hbefore⟩ := e.exists_chars
  have hmem : 0x0a ∉ (line ++ before).flatMap Utf8.encodeChar := by
    simp only [List.mem_flatMap, Utf8.feed_mem_encodeChar_iff, exists_eq_right, List.mem_append,
      not_or]
    exact ⟨h, hbefore⟩
  have hsplit : (line ++ e.chars).flatMap Utf8.encodeChar =
      (line ++ before).flatMap Utf8.encodeChar ++ [0x0a] := by
    rw [hchars, ← List.append_assoc, List.flatMap_append]
    rfl
  rw [hsplit, List.append_assoc, List.singleton_append, rawLines_append hmem]

theorem decode?_line (line : List Char) :
    Utf8.decode? (line.flatMap Utf8.encodeChar) = some (String.ofList line) :=
  Utf8.decode?_eq_some_iff.2 (by rw [Utf8.encode, String.toList_ofList])

/-- The end of a line is trimmed off, and no more, if no blank comes before it. -/
theorem trimEnd_line {line : List Char} (h : ∀ c ∈ line, Text.isBlank c = false) (e : LineEnd) :
    Text.trimEnd (line ++ e.chars) = line := by
  have hend : ∀ c ∈ e.chars.reverse, Text.isBlank c := fun c hc =>
    LineEnd.isBlank_of_mem c (List.mem_reverse.1 hc)
  have hline : line.reverse.dropWhile Text.isBlank = line.reverse :=
    List.dropWhile_eq_self_iff.2 fun hpos => by
      simpa using h _ (List.mem_reverse.1 (List.getElem_mem hpos))
  rw [Text.trimEnd, List.reverse_append, List.dropWhile_append_of_pos hend, hline,
    List.reverse_reverse]

/-! ## Blocks in any layout -/

/-- The first line of a block, without its end. -/
def Block.opening (b : Block) : List Char := beginMark ++ b.label.toList ++ dashes

/-- How a block is laid out: the lines that its base64 text is cut into, what ends each line, and what
ends the last one if anything does. -/
structure Block.Layout (b : Block) where
  lines : List (List Char)
  lineEnd : LineEnd
  lastEnd : Option LineEnd
  flatten_lines : lines.flatten = Base64.encodeChars b.contents

namespace Block.Layout

variable {b : Block}

/-- The end of the last line as text. -/
def lastChars (l : b.Layout) : List Char := (l.lastEnd.map LineEnd.chars).getD []

/-- The block as text. -/
def text (l : b.Layout) : String :=
  String.ofList <|
    b.opening ++ l.lineEnd.chars ++
    l.lines.flatMap (fun line => line ++ l.lineEnd.chars) ++
    endMark ++ b.label.toList ++ dashes ++ l.lastChars

/-- The layout in which blocks are written. -/
def standard (b : Block) : b.Layout := ⟨bodyLines b.contents, .feed, some .feed, flatten_bodyLines _⟩

theorem text_standard (b : Block) : (standard b).text = b.encode := rfl

/-- The layout with its last line ended. -/
def ended (l : b.Layout) : b.Layout := { l with lastEnd := some (l.lastEnd.getD .feed) }

/-- The last line, without its end, ends with a dash. -/
theorem exists_text_eq (l : b.Layout) :
    ∃ cs : List Char, cs.getLast? = some '-' ∧ l.text = String.ofList (cs ++ l.lastChars) ∧
      l.ended.text = String.ofList (cs ++ (l.lastEnd.getD .feed).chars) := by
  refine ⟨_, ?_, rfl, rfl⟩
  rw [List.getLast?_append]
  rfl

theorem isSymbol_of_mem (l : b.Layout) {line : List Char} (hline : line ∈ l.lines) :
    ∀ c ∈ line, Base64.IsSymbol c := fun c hc =>
  Base64.isSymbol_of_mem_encodeChars c (l.flatten_lines ▸ List.mem_flatten_of_mem hline hc)

end Block.Layout

/-- The lines of a body are put together again, if the end marker follows, and whatever comes after its
line. -/
theorem body?_lines {lines : List (List Char)} (h : ∀ line ∈ lines, ∀ c ∈ line, Base64.IsSymbol c)
    (e e' : LineEnd) {closing : List Char} (hclosing : '\n' ∉ closing) (bs : Bytes) :
    body? (rawLines ((lines.flatMap (fun line => line ++ e.chars)).flatMap Utf8.encodeChar ++
      ((endMark ++ closing ++ e'.chars).flatMap Utf8.encodeChar ++ bs))) = some lines.flatten := by
  induction lines with
  | nil =>
    have hfeed : '\n' ∉ endMark ++ closing := by
      rw [List.mem_append, not_or]
      exact ⟨by decide, hclosing⟩
    rw [List.flatMap_nil, List.flatMap_nil, List.nil_append, rawLines_line hfeed, body?,
      decode?_line, Option.bind_eq_bind, Option.bind_some, String.toList_ofList, if_pos]
    · rfl
    · rw [List.append_assoc]
      simp
  | cons line lines ih =>
    rw [List.forall_mem_cons] at h
    have hfeed : '\n' ∉ line := fun hc => by
      have := (h.1 _ hc).of_all (p := fun c => c != '\n') (by decide)
      cases this
    have hdash : '-' ∉ line ++ e.chars := by
      rw [List.mem_append, not_or]
      refine ⟨fun hc => ?_, e.dash_not_mem⟩
      have := (h.1 _ hc).of_all (p := fun c => c != '-') (by decide)
      cases this
    have hmark : ¬ endMark.isPrefixOf (line ++ e.chars) := fun hprefix =>
      hdash ((List.isPrefixOf_iff_prefix.1 hprefix).subset (by decide))
    have hblank : ∀ c ∈ line, Text.isBlank c = false := fun c hc => by
      simpa using (h.1 c hc).of_all (p := fun c => !Text.isBlank c) (by decide)
    rw [List.flatMap_cons, List.flatMap_append, List.append_assoc, rawLines_line hfeed, body?,
      decode?_line, Option.bind_eq_bind, Option.bind_some, String.toList_ofList, if_neg hmark, ih h.2,
      trimEnd_line hblank]
    rfl

namespace Block

variable {b : Block}

theorem feed_not_mem_opening (hlabel : '\n' ∉ b.label.toList) : '\n' ∉ b.opening := by
  simp only [opening, List.mem_append, not_or]
  exact ⟨⟨by decide, hlabel⟩, by decide⟩

theorem beginMark_opening (b : Block) (e : LineEnd) :
    beginMark.isPrefixOf (b.opening ++ e.chars) := by
  simp [opening]

/-- The label of a block is followed by dashes. -/
theorem contains_opening (b : Block) (e : LineEnd) :
    Text.contains dashes ((b.opening ++ e.chars).drop dashes.length) := by
  have hmark : beginMark = dashes ++ "BEGIN ".toList := by decide
  have hdrop : (b.opening ++ e.chars).drop dashes.length =
      ("BEGIN ".toList ++ b.label.toList) ++ (dashes ++ e.chars) := by
    simp [opening, hmark]
  rw [hdrop]
  exact Text.contains_append _ _ _

namespace Layout

/-- The contents of a block at the start of a bundle are the first ones of the bundle, if its last line
is ended. -/
theorem firstContents_text (hlabel : '\n' ∉ b.label.toList) (l : b.Layout) {e : LineEnd}
    (hend : l.lastEnd = some e) (bs : Bytes) :
    firstContents (Utf8.encode l.text ++ bs) = some b.contents := by
  have hclosing : '\n' ∉ b.label.toList ++ dashes := by
    rw [List.mem_append, not_or]
    exact ⟨hlabel, by decide⟩
  have htext : Utf8.encode l.text ++ bs =
      (b.opening ++ l.lineEnd.chars).flatMap Utf8.encodeChar ++
        ((l.lines.flatMap (fun line => line ++ l.lineEnd.chars)).flatMap Utf8.encodeChar ++
          ((endMark ++ (b.label.toList ++ dashes) ++ e.chars).flatMap Utf8.encodeChar ++ bs)) := by
    simp [Utf8.encode, text, lastChars, hend]
  have hbody :
      blockBody? (rawLines (Utf8.encode l.text ++ bs)) = some (Base64.encodeChars b.contents) := by
    rw [htext, rawLines_line (feed_not_mem_opening hlabel), blockBody?, decode?_line,
      Option.bind_eq_bind, Option.bind_some, String.toList_ofList, if_pos (b.beginMark_opening _),
      if_pos (b.contains_opening _),
      body?_lines (fun line hline => l.isSymbol_of_mem hline) _ _ hclosing, l.flatten_lines]
  rw [firstContents, hbody]
  exact Base64.decodeGroups_of_decodeChars (Base64.decodeChars_encodeChars b.contents)

end Layout

end Block

end Pem

end NodePki
