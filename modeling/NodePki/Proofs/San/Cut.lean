import NodePki.Proofs.Der.Cut
import NodePki.Proofs.San.Grammar

/-!
# Extension values cut short and continued

An extension value that is read ends where its outermost sequence ends, whatever the entries hold:
without its last octets it is incomplete (`readAll_cut`), and with further ones it has trailing octets
(`readAll_append`). The entries play no part in either, since the sequence is read as a whole before
any of them.
-/

namespace NodePki

namespace OtherName

open Der (IsValue maxLength)

variable {value : Bytes} {ns : List OtherName}

/-- What is read is one sequence. -/
theorem exists_sequence (h : readAll value = .ok ns) :
    ∃ content, IsValue .sequence content value ∧ value.length ≤ maxLength := by
  obtain ⟨hfits, @⟨_, content, _, -, -, hvalue⟩⟩ := readAll_eq_ok_iff.1 h
  exact ⟨content, hvalue, hfits⟩

/-- No entry is read of a value that is no whole one. -/
theorem readAll_eq_error {cause : Der.Error} (h : Der.decode Der.Reader.any value = .error cause) :
    readAll value = .error (.der cause) := by
  rw [readAll, h]
  rfl

theorem readAll_cut (h : readAll value = .ok ns) {cut : Bytes} (begins : cut <+: value)
    (proper : cut ≠ value) :
    ∃ expected position, readAll cut = .error (.der (.incomplete expected cut.length position)) ∧
      cut.length < expected ∧ expected ≤ value.length := by
  obtain ⟨content, hvalue, hfits⟩ := exists_sequence h
  obtain ⟨expected, position, hdecode, more, bound⟩ :=
    Der.Reader.starves_any.decode (a := (.sequence, content)) hvalue hfits begins proper
  exact ⟨expected, position, readAll_eq_error hdecode, more, bound⟩

theorem readAll_append (h : readAll value = .ok ns) {more : Bytes} (hmore : more ≠ []) :
    readAll (value ++ more) = .error (.der (if maxLength < (value ++ more).length then .overflow
      else .trailing value.length more.length)) := by
  obtain ⟨content, hvalue, -⟩ := exists_sequence h
  apply readAll_eq_error
  rw [Der.Reader.reads_any.decode_append (a := (.sequence, content)) hvalue hmore]
  split <;> rfl

/-- A value that is read can be neither cut nor continued: every proper beginning of it is refused as
unreadable for octets that are missing, no more than were cut off, and every continuation for the
octets after its end, or for its length. -/
theorem readAll_selfDelimiting (h : readAll value = .ok ns) :
    (∀ cut, cut <+: value → cut ≠ value →
      ∃ e, readAll cut = .error e ∧ e.kind = .parse ∧
        ∃ expected position, e = .der (.incomplete expected cut.length position) ∧
          cut.length < expected ∧ expected ≤ value.length) ∧
      ∀ more, more ≠ [] →
        ∃ e, readAll (value ++ more) = .error e ∧ e.kind = .parse ∧
          e = .der (if maxLength < (value ++ more).length then .overflow
            else .trailing value.length more.length) := by
  constructor
  · intro cut begins proper
    obtain ⟨expected, position, hrun, needs, bound⟩ := readAll_cut h begins proper
    exact ⟨_, hrun, rfl, expected, position, rfl, needs, bound⟩
  · intro more hmore
    exact ⟨_, readAll_append h hmore, rfl, rfl⟩

/-- A value of 146 octets, with an other name and a DNS name of 128 letters: its length takes two
octets, and it is cut after the first of them. -/
theorem readAll_selfDelimiting_long :
    let name : Bytes := [0xa0, 0x0a, 0x06, 0x03, 0x2a, 0x03, 0x04, 0xa0, 0x03, 0x0c, 0x01, 0x61]
    let value : Bytes := [0x30, 0x81, 0x8f] ++ name ++ [0x82, 0x81, 0x80] ++ .replicate 128 0x61
    readAll value = .ok [⟨⟨[0x2a, 0x03, 0x04]⟩, "a"⟩] ∧
      [0x30, 0x81] <+: value ∧ ([0x30, 0x81] : Bytes) ≠ value ∧
      (∃ e, readAll [0x30, 0x81] = .error e ∧ e.kind = .parse) ∧
      ([0x00] : Bytes) ≠ [] ∧ ∃ e, readAll (value ++ [0x00]) = .error e ∧ e.kind = .parse := by
  intro name value
  have hread : readAll value = .ok [⟨⟨[0x2a, 0x03, 0x04]⟩, "a"⟩] := by decide +kernel
  obtain ⟨cuts, continued⟩ := readAll_selfDelimiting hread
  have begins : [0x30, 0x81] <+: value := by decide
  have proper : ([0x30, 0x81] : Bytes) ≠ value := by decide
  obtain ⟨e, hcut, hkind, -⟩ := cuts _ begins proper
  obtain ⟨e', hmore, hkind', -⟩ := continued [0x00] (by decide)
  exact ⟨hread, begins, proper, ⟨e, hcut, hkind⟩, by decide, e', hmore, hkind'⟩

end OtherName

end NodePki
