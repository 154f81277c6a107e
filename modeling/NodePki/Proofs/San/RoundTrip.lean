import NodePki.Proofs.San.Grammar
import NodePki.Proofs.San.Writer

/-!
# Written names and read names

Reading other names after writing names, and writing after reading. Both follow from the one form
that values have: of octets within the limit on lengths, the grammar leaves just those that the
writer makes (`isBody_iff`, `areNames_iff`). `readAll_encodeAll` says what reading makes of written
names: the other names among them, unless one has an identifier that the strict reader refuses.
`encodeAll_readAll` says that octets with nothing but other names are written back as they were.
-/

namespace NodePki

open Der (Tag IsValue AreValues tlv tlvs maxLength)

namespace OtherName

/-- The content of an other name has one form. -/
theorem isBody_iff {n : OtherName} {bs : Bytes} (h : bs.length ≤ maxLength) :
    IsBody n bs ↔ n.oid.IsStrict ∧ bs = n.body := by
  constructor
  · rintro @⟨identifier, text, wrapped, strict, kind, value, wrapper⟩
    rw [List.length_append] at h
    have htext := wrapper.length_lt
    rw [(Der.isValue_iff (by omega)).1 value] at wrapper
    rw [(Der.isValue_iff (by omega)).1 kind, (Der.isValue_iff (by omega)).1 wrapper]
    exact ⟨strict, rfl⟩
  · rintro ⟨strict, rfl⟩
    have hparts := n.length_body
    have htext := Der.length_lt_length_tlv otherNameTag (tlv .utf8String (Utf8.encode n.value))
    exact .mk strict ((Der.isValue_iff (by omega)).2 rfl) ((Der.isValue_iff (by omega)).2 rfl)
      ((Der.isValue_iff (by omega)).2 rfl)

/-- The contents of two other names differ. -/
theorem body_injective {n m : OtherName} (h : n.body.length ≤ maxLength) (heq : n.body = m.body) :
    n = m := by
  obtain ⟨-, hoid, hwrapped⟩ := Der.tlv_append_inj h heq
  have hparts := n.length_body
  have htext := Der.length_lt_length_tlv otherNameTag (tlv .utf8String (Utf8.encode n.value))
  obtain ⟨-, htlv⟩ := Der.tlv_inj (by omega) hwrapped
  obtain ⟨-, hvalue⟩ := Der.tlv_inj (by omega) htlv
  cases n with | mk oid value =>
  cases m with | mk oid' value' =>
  cases oid; cases oid'
  cases hoid
  cases Utf8.encode_injective hvalue
  rfl

/-- An extension has one form. -/
theorem areNames_iff {ns : List OtherName} {bs : Bytes} (h : bs.length ≤ maxLength) :
    AreNames ns bs ↔ ∃ vs, Among vs ns ∧ bs = tlv .sequence (tlvs vs) := by
  constructor
  · rintro @⟨vs, content, _, entries, names, sequence⟩
    have hlt := sequence.length_lt
    rw [(Der.areValues_iff (by omega)).1 entries] at sequence
    exact ⟨vs, names, (Der.isValue_iff h).1 sequence⟩
  · rintro ⟨vs, names, rfl⟩
    have hlt := Der.length_lt_length_tlv .sequence (tlvs vs)
    exact .mk ((Der.areValues_iff (by omega)).2 rfl) names ((Der.isValue_iff h).2 rfl)

/-- Reading a written sequence of values answers the other names among the values. -/
theorem readAll_tlv_iff {vs : List (Tag × Bytes)} {ns : List OtherName}
    (h : (tlv .sequence (tlvs vs)).length ≤ maxLength) :
    readAll (tlv .sequence (tlvs vs)) = .ok ns ↔ Among vs ns := by
  rw [readAll_eq_ok_iff, areNames_iff h]
  constructor
  · rintro ⟨-, ws, names, heq⟩
    obtain ⟨-, htlvs⟩ := Der.tlv_inj h heq
    have hlt := Der.length_lt_length_tlv .sequence (tlvs vs)
    rwa [Der.tlvs_inj (by omega) htlvs]
  · exact fun names => ⟨h, vs, names, rfl⟩

/-- An other name as a value. -/
def entry (n : OtherName) : Tag × Bytes := (otherNameTag, n.body)

/-- What can be read from the values of other names is these names. -/
theorem forall₂_map_entry_iff {ns ms : List OtherName}
    (fits : ∀ n ∈ ns, n.body.length ≤ maxLength) :
    List.Forall₂ (fun v n => IsBody n v.2) (ns.map entry) ms ↔
      (∀ n ∈ ns, n.oid.IsStrict) ∧ ms = ns := by
  induction ns generalizing ms with
  | nil => simp
  | cons n ns ih =>
    rw [List.forall_mem_cons] at fits
    have hfirst : ∀ m, IsBody m n.body ↔ n.oid.IsStrict ∧ m = n := by
      intro m
      rw [isBody_iff fits.1]
      constructor
      · rintro ⟨strict, heq⟩
        cases body_injective fits.1 heq
        exact ⟨strict, rfl⟩
      · rintro ⟨strict, rfl⟩
        exact ⟨strict, rfl⟩
    rw [List.map_cons, List.forall₂_cons_left_iff, List.forall_mem_cons]
    simp only [ih fits.2, entry, hfirst]
    constructor
    · rintro ⟨m, ms, ⟨strict, rfl⟩, ⟨others, rfl⟩, rfl⟩
      exact ⟨⟨strict, others⟩, rfl⟩
    · rintro ⟨⟨strict, others⟩, rfl⟩
      exact ⟨n, ns, ⟨strict, rfl⟩, ⟨others, rfl⟩, rfl⟩

/-- Values from which nothing but other names can be read are the values of these names. -/
theorem eq_map_entry {vs : List (Tag × Bytes)} {ns : List OtherName}
    (h : List.Forall₂ (fun v n => IsBody n v.2) vs ns) (fits : ∀ v ∈ vs, v.2.length ≤ maxLength)
    (tags : ∀ v ∈ vs, v.1 = otherNameTag) : vs = ns.map entry := by
  induction h with
  | nil => rfl
  | @cons v n vs ns name _ ih =>
    rw [List.forall_mem_cons] at fits tags
    have hv : v = entry n := Prod.ext tags.1 ((isBody_iff fits.1).1 name).2
    rw [hv, ih fits.2 tags.2, List.map_cons]

/-- The octets are one sequence of values, all of them with the tag of other names. -/
def OnlyOtherNames (bs : Bytes) : Prop :=
  ∃ vs content, AreValues vs content ∧ IsValue .sequence content bs ∧ ∀ v ∈ vs, v.1 = otherNameTag

/-- Octets with nothing but other names, as far as they can be read, are those that the writer makes
of the names. -/
theorem eq_octets {bs : Bytes} {ns : List OtherName} (only : OnlyOtherNames bs)
    (h : readAll bs = .ok ns) :
    bs.length ≤ maxLength ∧ bs = GeneralName.octets (ns.map .otherName) := by
  have hle := (readAll_eq_ok_iff.1 h).1
  refine ⟨hle, ?_⟩
  obtain ⟨vs, content, entries, sequence, tags⟩ := only
  have hlt := sequence.length_lt
  cases (Der.areValues_iff (by omega)).1 entries
  cases (Der.isValue_iff hle).1 sequence
  have names := (readAll_tlv_iff hle).1 h
  rw [Among, List.filter_eq_self.2 (by simpa using tags)] at names
  have fits : ∀ v ∈ vs, v.2.length ≤ maxLength := by
    intro v hv
    have := Der.length_lt_of_mem hv
    omega
  rw [eq_map_entry names fits tags, GeneralName.octets, List.map_map]
  rfl

/-- What is read from octets with nothing but other names is written back as these octets, and no
other such octets have the same names. -/
theorem encodeAll_readAll {bs : Bytes} {ns : List OtherName} (only : OnlyOtherNames bs)
    (h : readAll bs = .ok ns) :
    (ns ≠ [] → GeneralName.encodeAll (ns.map .otherName) = .ok bs) ∧
      ∀ bs', OnlyOtherNames bs' → readAll bs' = .ok ns → bs' = bs := by
  obtain ⟨hle, hbs⟩ := eq_octets only h
  constructor
  · intro hne
    refine GeneralName.encodeAll_eq_ok_iff.2 ⟨by simpa using hne, ?_, hle, hbs⟩
    intro g hg
    obtain ⟨n, -, rfl⟩ := List.mem_map.1 hg
    trivial
  · intro bs' only' h'
    rw [(eq_octets only' h').2, hbs]

/-- The octets of one other name, with a letter of two octets. -/
theorem encodeAll_readAll_accent :
    let bs : Bytes := [
      0x30, 0x0d, 0xa0, 0x0b, 0x06, 0x03, 0x55, 0x04, 0x03, 0xa0, 0x04, 0x0c, 0x02, 0xc3, 0xa9]
    let n : OtherName := ⟨.commonName, "é"⟩
    readAll bs = .ok [n] ∧ GeneralName.encodeAll [.otherName n] = .ok bs := by
  intro bs n
  have hread : readAll bs = .ok [n] := rfl
  have entries : AreValues [entry n] (tlvs [entry n]) :=
    (Der.areValues_iff (show (tlvs [entry n]).length ≤ maxLength by decide)).2 rfl
  have sequence : IsValue .sequence (tlvs [entry n]) bs :=
    (Der.isValue_iff (show bs.length ≤ maxLength by decide)).2 (by decide)
  have only : OnlyOtherNames bs :=
    ⟨[entry n], tlvs [entry n], entries, sequence, List.forall_mem_singleton.2 rfl⟩
  exact ⟨hread, (encodeAll_readAll only hread).1 (by decide)⟩

end OtherName

namespace GeneralName

/-- The other names among some names. -/
def otherNames (names : List GeneralName) : List OtherName :=
  names.filterMap fun
    | otherName n => some n
    | _ => none

theorem filter_map_value (names : List GeneralName) :
    (names.map value).filter (·.1 = otherNameTag) = (otherNames names).map OtherName.entry := by
  induction names with
  | nil => rfl
  | cons g names ih =>
    rw [List.map_cons, List.filter_cons, ih]
    cases g <;> rfl

/-- Reading written names answers the other names among them, if the strict reader takes the
identifiers of all of these. -/
theorem readAll_octets_iff {names : List GeneralName} (h : (octets names).length ≤ maxLength)
    {ns : List OtherName} :
    OtherName.readAll (octets names) = .ok ns ↔
      (∀ n ∈ otherNames names, n.oid.IsStrict) ∧ ns = otherNames names := by
  rw [octets] at h ⊢
  have hlt := Der.length_lt_length_tlv .sequence (tlvs (names.map value))
  rw [OtherName.readAll_tlv_iff h, OtherName.Among, filter_map_value]
  refine OtherName.forall₂_map_entry_iff fun n hn => ?_
  have hmem := List.mem_map_of_mem (f := OtherName.entry) hn
  rw [← filter_map_value] at hmem
  have hbody : n.body.length < _ := Der.length_lt_of_mem (List.mem_of_mem_filter hmem)
  omega

/-- Names that are written are read if the identifiers of all other names among them are acceptable
to the strict reader, and what is read is just these other names, in order. -/
theorem readAll_encodeAll {names : List GeneralName} {bs : Bytes} (h : encodeAll names = .ok bs)
    (ns : List OtherName) :
    OtherName.readAll bs = .ok ns ↔
      (∀ n ∈ otherNames names, n.oid.IsStrict) ∧ ns = otherNames names := by
  obtain ⟨-, -, hle, rfl⟩ := encodeAll_eq_ok_iff.1 h
  exact readAll_octets_iff hle

/-- A list with names of all kinds, of which one has an identifier in an unusual form. -/
theorem readAll_encodeAll_mixed :
    let names : List GeneralName := [
      .dnsName "a", .otherName ⟨.commonName, "é"⟩, .ipAddress .localhost,
      .otherName ⟨⟨[0x2a, 0x80, 0x01]⟩, ""⟩]
    encodeAll names = .ok (octets names) ∧ OtherName.readAll (octets names) =
      .ok [⟨.commonName, "é"⟩, ⟨⟨[0x2a, 0x80, 0x01]⟩, ""⟩] := by
  intro names
  have hwrite : encodeAll names = .ok (octets names) := rfl
  exact ⟨hwrite, (readAll_encodeAll hwrite _).2 ⟨by decide, rfl⟩⟩

end GeneralName

end NodePki
