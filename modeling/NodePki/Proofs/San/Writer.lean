import NodePki.Proofs.Der.Reader
import NodePki.San.GeneralName

/-!
# Written names

What the writer makes of names: each name has a tag and a content (`GeneralName.value`), and a list
of names is written as the sequence of these values (`GeneralName.octets`). Names are refused if
there are none, if one cannot be written at all, or if the whole is too long
(`encodeAll_eq_ok_iff`); names that can be written are refused for their length only
(`writes_encodeAll`).
-/

namespace NodePki

open Der (Tag tlv tlvs maxLength)

/-- The refusal is on account of the limit on lengths. -/
inductive Error.IsLimit : Error → Prop
  | content (t : Tag) : IsLimit (.der (.length t))
  | whole : IsLimit (.der .overflow)

/-- A writer writes the octets, or refuses because they are too long. -/
inductive Writes (x : Except Error Bytes) (bs : Bytes) : Prop
  | written (ok : x = .ok bs)
  | refused {e : Error} (refusal : x = .error e) (limit : e.IsLimit) (long : maxLength < bs.length)

namespace Writes

variable {x y : Except Error Bytes} {f : Bytes → Except Error Bytes} {a b : Bytes}

/-- A writer after another, whose octets are no more than those of the second. -/
theorem bind (hx : Writes x a) (hf : Writes (f a) b) (hle : a.length ≤ b.length) :
    Writes (x >>= f) b := by
  cases hx with
  | written ok => rw [ok]; exact hf
  | refused refusal limit long =>
    rw [refusal]
    exact .refused rfl limit (Nat.lt_of_lt_of_le long hle)

/-- Two writers one after the other. -/
theorem append (hx : Writes x a) (hy : Writes y b) :
    Writes (do let first ← x; let rest ← y; return first ++ rest) (a ++ b) := by
  have hlength : (a ++ b).length = a.length + b.length := List.length_append
  cases hx with
  | refused refusal limit long => exact .refused (by rw [refusal]; rfl) limit (by omega)
  | written ok =>
    cases hy with
    | refused refusal limit long => exact .refused (by rw [ok, refusal]; rfl) limit (by omega)
    | written ok' => exact .written (by rw [ok, ok']; rfl)

theorem eq_of_ok (h : Writes x a) (hx : x = .ok b) : b = a := by
  cases h with
  | written ok => exact Except.ok.inj (hx.symm.trans ok)
  | refused refusal => cases hx.symm.trans refusal

theorem limit_of_error (h : Writes x a) {e : Error} (hx : x = .error e) :
    e.IsLimit ∧ maxLength < a.length := by
  cases h with
  | written ok => cases hx.symm.trans ok
  | refused refusal limit long =>
    cases hx.symm.trans refusal
    exact ⟨limit, long⟩

theorem ok_of_le (h : Writes x a) (hle : a.length ≤ maxLength) : x = .ok a := by
  cases h with
  | written ok => exact ok
  | refused _ _ long => exact absurd hle (Nat.not_le_of_lt long)

end Writes

theorem writes_writeDer (t : Tag) (content : Bytes) : Writes (writeDer t content) (tlv t content) := by
  rw [writeDer, Der.encode?]
  have hlt := Der.length_lt_length_tlv t content
  split
  · next h => exact .refused rfl (.content t) (Nat.lt_trans h hlt)
  split
  · next h => exact .refused rfl .whole h
  · exact .written rfl

theorem length_le_of_writeDer {t : Tag} {content bs : Bytes} (h : writeDer t content = .ok bs) :
    bs.length ≤ maxLength := by
  rw [writeDer, Der.encode?] at h
  split at h
  · cases h
  split at h
  · cases h
  · next hle =>
    cases h
    exact Nat.le_of_not_lt hle

theorem writes_writeText (text : String) :
    Writes (writeText text) (tlv .utf8String (Utf8.encode text)) := by
  rw [writeText, Der.encodeText?]
  split
  · next h => exact .refused rfl .whole h
  · exact .written rfl

/-- The content of an other name: its identifier, and its text within a wrapper. -/
def OtherName.body (n : OtherName) : Bytes :=
  tlv .objectIdentifier n.oid.content ++ tlv otherNameTag (tlv .utf8String (Utf8.encode n.value))

theorem OtherName.length_body (n : OtherName) : n.body.length =
    (tlv .objectIdentifier n.oid.content).length +
      (tlv otherNameTag (tlv .utf8String (Utf8.encode n.value))).length :=
  List.length_append

theorem OtherName.writes_encode (n : OtherName) : Writes n.encode (tlv otherNameTag n.body) := by
  have hbody := Nat.le_of_lt (Der.length_lt_length_tlv otherNameTag n.body)
  have htext := Nat.le_of_lt
    (Der.length_lt_length_tlv otherNameTag (tlv .utf8String (Utf8.encode n.value)))
  have hparts := n.length_body
  rw [OtherName.encode]
  refine (writes_writeText n.value).bind ?_ (by omega)
  refine (writes_writeDer otherNameTag _).bind ?_ (by omega)
  refine (writes_writeDer .objectIdentifier _).bind ?_ (by omega)
  exact writes_writeDer otherNameTag _

namespace GeneralName

/-- The tag and the content of a name. -/
def value : GeneralName → Tag × Bytes
  | otherName n => (otherNameTag, n.body)
  | dnsName name => (dnsNameTag, Utf8.encode name)
  | ipAddress ip => (ipAddressTag, ip.octets)

/-- The octets of a list of names. -/
def octets (names : List GeneralName) : Bytes := tlv .sequence (tlvs (names.map value))

/-- Whether a name can be written, but for its length. -/
def IsWritable : GeneralName → Prop
  | dnsName name => isDnsName name
  | _ => True

theorem writes_encode {g : GeneralName} (h : g.IsWritable) :
    Writes g.encode (tlv g.value.1 g.value.2) := by
  cases g with
  | otherName n => exact n.writes_encode
  | dnsName name =>
    rw [encode, if_pos (show isDnsName name = true from h)]
    exact writes_writeDer _ _
  | ipAddress ip => exact writes_writeDer _ _

theorem isWritable_of_encode {g : GeneralName} {bs : Bytes} (h : g.encode = .ok bs) :
    g.IsWritable := by
  cases g with
  | dnsName name =>
    rw [encode] at h
    split at h
    · assumption
    · cases h
  | _ => trivial

theorem writes_encodeBody {names : List GeneralName} (h : ∀ g ∈ names, g.IsWritable) :
    Writes (encodeBody names) (tlvs (names.map value)) := by
  induction names with
  | nil => exact .written rfl
  | cons g names ih =>
    rw [List.forall_mem_cons] at h
    exact (writes_encode h.1).append (ih h.2)

theorem isWritable_of_encodeBody {names : List GeneralName} {bs : Bytes}
    (h : encodeBody names = .ok bs) : ∀ g ∈ names, g.IsWritable := by
  induction names generalizing bs with
  | nil => exact fun _ hg => nomatch hg
  | cons g names ih =>
    simp only [encodeBody, bind_eq_ok_iff] at h
    obtain ⟨first, hfirst, rest, hrest, -⟩ := h
    exact List.forall_mem_cons.2 ⟨isWritable_of_encode hfirst, ih hrest⟩

/-- Names that can be written are refused for their length only. -/
theorem writes_encodeAll {names : List GeneralName} (hne : names ≠ [])
    (h : ∀ g ∈ names, g.IsWritable) : Writes (encodeAll names) (octets names) := by
  rw [encodeAll, if_neg (by simpa using hne)]
  exact (writes_encodeBody h).bind (writes_writeDer _ _)
    (Nat.le_of_lt (Der.length_lt_length_tlv _ _))

/-- Which names are written, and as what. -/
theorem encodeAll_eq_ok_iff {names : List GeneralName} {bs : Bytes} :
    encodeAll names = .ok bs ↔
      names ≠ [] ∧ (∀ g ∈ names, g.IsWritable) ∧ bs.length ≤ maxLength ∧ bs = octets names := by
  constructor
  · intro h
    have hne : names ≠ [] := by
      rintro rfl
      cases h
    obtain ⟨body, hbody, hwrite⟩ : ∃ body, encodeBody names = .ok body ∧
        writeDer .sequence body = .ok bs := by
      rw [encodeAll, if_neg (by simpa using hne)] at h
      exact bind_eq_ok_iff.1 h
    have hwritable := isWritable_of_encodeBody hbody
    exact ⟨hne, hwritable, length_le_of_writeDer hwrite, (writes_encodeAll hne hwritable).eq_of_ok h⟩
  · rintro ⟨hne, hwritable, hle, rfl⟩
    exact (writes_encodeAll hne hwritable).ok_of_le hle

end GeneralName

end NodePki
