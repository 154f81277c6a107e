import Mathlib.Data.List.Forall2
import NodePki.Proofs.Der.Reader
import NodePki.San.Reader

/-!
# The grammar of other names

Which octets hold which other names, said without the reader: the content of one other name
(`OtherName.IsBody`), and a sequence of values of which those with the tag of other names are to have
such content, while all others may be anything (`OtherName.AreNames`). `readAll_grammar` says that
the reader takes just these octets and answers just these names. It has no third outcome: what it
refuses, it refuses as unreadable.
-/

namespace NodePki

open Der (Tag IsValue AreValues maxLength)

namespace OtherName

/-- The octets are the content of an other name: an identifier as the strict reader takes it, and a
wrapper that holds the text and nothing else. -/
inductive IsBody (n : OtherName) : Bytes → Prop
  | mk {identifier text wrapped : Bytes} (strict : n.oid.IsStrict)
      (kind : IsValue .objectIdentifier n.oid.content identifier)
      (value : IsValue .utf8String (Utf8.encode n.value) text)
      (wrapper : IsValue otherNameTag text wrapped) : IsBody n (identifier ++ wrapped)

/-- Of some values, those with the tag of other names are the given ones, in order. -/
def Among (vs : List (Tag × Bytes)) (ns : List OtherName) : Prop :=
  List.Forall₂ (fun v n => IsBody n v.2) (vs.filter (·.1 = otherNameTag)) ns

/-- The octets are one sequence of values, of which the given names are the other names. -/
inductive AreNames (ns : List OtherName) : Bytes → Prop
  | mk {vs : List (Tag × Bytes)} {content value : Bytes} (entries : AreValues vs content)
      (names : Among vs ns) (sequence : IsValue .sequence content value) : AreNames ns value

theorem among_cons {t : Tag} {content : Bytes} {vs : List (Tag × Bytes)} {ns : List OtherName} :
    Among ((t, content) :: vs) ns ↔
      if t = otherNameTag then ∃ n ms, IsBody n content ∧ Among vs ms ∧ ns = n :: ms
      else Among vs ns := by
  rw [Among, List.filter_cons]
  split
  · next h => rw [if_pos (by simpa using h), List.forall₂_cons_left_iff]; rfl
  · next h => rw [if_neg (by simpa using h)]; rfl

/-! ## The reader -/

theorem readDer_eq_ok_iff {α : Type} {x : Except Der.Error α} {a : α} :
    readDer x = .ok a ↔ x = .ok a := by
  cases x <;> simp [readDer, Except.mapError]

/-- A step after a check comes to a result if the check lets it. -/
theorem check_eq_ok_iff {α : Type} {p : Prop} [Decidable p] {e : Error} {x : Except Error α}
    {f : PUnit → Except Error α} {a : α} :
    (if p then throw e >>= f else x) = .ok a ↔ ¬ p ∧ x = .ok a := by
  split
  · next h => simp [h, throw, throwThe, MonadExceptOf.throw, bind, Except.bind]
  · next h => simp [h]

/-- Reading a body takes just the content of an other name. -/
theorem ofBody_eq_ok_iff {body : Bytes} (h : body.length ≤ maxLength) {n : OtherName} :
    ofBody body = .ok n ↔ IsBody n body := by
  rw [ofBody]
  simp only [bind_eq_ok_iff, readDer_eq_ok_iff, check_eq_ok_iff,
    Der.Reader.reads_utf8String.decode_eq_ok_iff]
  constructor
  · rintro ⟨⟨oid, c⟩, hoid, ⟨⟨tag, content⟩, c'⟩, hany, hend, htag, value, ⟨-, hvalue⟩, hn⟩
    obtain ⟨x, ⟨hx, hstrict⟩, hpass⟩ := (Der.Reader.reads_oid _ (Nat.zero_le _) _ _).1 hoid
    obtain ⟨y, hy, hpass'⟩ := (Der.Reader.reads_any _ hpass.fits _ _).1 hany
    have hend : c'.rest = [] := by simpa using hend
    have htag : tag = otherNameTag := not_not.1 htag
    have hbody : body = x ++ y := by rw [← List.append_nil y, ← hend, ← hpass'.rest]; exact hpass.rest
    cases hn
    rw [hbody]
    exact .mk hstrict hx hvalue (htag ▸ hy)
  · rintro @⟨identifier, text, wrapped, strict, kind, value, wrapper⟩
    rw [List.length_append] at h
    have hidentifier : Der.Reader.oid ⟨0, identifier ++ wrapped⟩ =
        .ok (n.oid, ⟨identifier.length, wrapped⟩) :=
      (Der.Reader.reads_oid _ (Nat.zero_le _) _ _).2
        ⟨_, ⟨kind, strict⟩, rfl, (Nat.zero_add _).symm, Nat.le_of_add_right_le h⟩
    have hwrapped : Der.Reader.any ⟨identifier.length, wrapped⟩ =
        .ok ((otherNameTag, text), ⟨identifier.length + wrapped.length, []⟩) :=
      (Der.Reader.reads_any _ (Nat.le_of_add_right_le h) _ _).2
        ⟨_, wrapper, (List.append_nil _).symm, rfl, h⟩
    have htext : text.length ≤ maxLength :=
      Nat.le_of_lt (Nat.lt_of_lt_of_le wrapper.length_lt (Nat.le_of_add_left_le h))
    exact ⟨_, hidentifier, _, hwrapped, by simp, by simp, n.value, ⟨htext, value⟩, rfl⟩

/-- An entry before others: if it has the tag of other names, it is to be one. -/
theorem entry_eq_ok_iff {t : Tag} {content : Bytes} (h : content.length ≤ maxLength)
    {others : Except Error (List OtherName)} {P : List (Tag × Bytes) → Prop}
    (hothers : ∀ ms, others = .ok ms ↔ ∃ vs, P vs ∧ Among vs ms) {ns : List OtherName} :
    (if t = otherNameTag then do
        let name ← ofBody content
        let names ← others
        return name :: names
      else others) = .ok ns ↔ ∃ vs, P vs ∧ Among ((t, content) :: vs) ns := by
  simp only [among_cons]
  split
  · simp only [bind_eq_ok_iff, ofBody_eq_ok_iff h, hothers]
    constructor
    · rintro ⟨n, hn, ms, ⟨vs, hvs, hms⟩, heq⟩
      cases heq
      exact ⟨vs, hvs, n, ms, hn, hms, rfl⟩
    · rintro ⟨vs, hvs, n, ms, hn, hms, rfl⟩
      exact ⟨n, hn, ms, ⟨vs, hvs, hms⟩, rfl⟩
  · exact hothers ns

/-- Reading entries takes just values, of which those with the tag of other names are some. -/
theorem readEntries_eq_ok_iff {fuel : Nat} {c : Der.Cursor} (hfuel : c.rest.length ≤ fuel)
    (h : c.position + c.rest.length ≤ maxLength) {ns : List OtherName} :
    readEntries fuel c = .ok ns ↔ ∃ vs, AreValues vs c.rest ∧ Among vs ns := by
  have hnil : ∀ {c : Der.Cursor} {ns : List OtherName}, c.rest = [] →
      ((.ok [] : Except Error _) = .ok ns ↔ ∃ vs, AreValues vs c.rest ∧ Among vs ns) := by
    intro c ns hend
    simp [hend, Der.areValues_nil_iff, Among, eq_comm]
  induction fuel generalizing c ns with
  | zero => exact hnil (List.eq_nil_of_length_eq_zero (Nat.le_zero.1 hfuel))
  | succ fuel ih =>
    rw [readEntries]
    split
    · next hend => exact hnil (List.isEmpty_iff.1 hend)
    next hmore =>
    -- what is left after the first value
    have hrest : ∀ {t content value c'}, IsValue t content value → c.Passes value c' →
        ((if t = otherNameTag then do
            let name ← ofBody content
            let names ← readEntries fuel c'
            return name :: names
          else readEntries fuel c') = .ok ns ↔
          ∃ vs, AreValues vs c'.rest ∧ Among ((t, content) :: vs) ns) := by
      intro t content value c' hvalue hpass
      have hlt := hvalue.length_lt
      have hlen := congrArg List.length hpass.rest
      rw [List.length_append] at hlen
      have hpos := hpass.position
      exact entry_eq_ok_iff (by omega) fun ms => ih (by omega) (by omega)
    simp only [bind_eq_ok_iff, readDer_eq_ok_iff]
    constructor
    · rintro ⟨⟨⟨t, content⟩, c'⟩, hany, hread⟩
      obtain ⟨value, hvalue, hpass⟩ := (Der.Reader.reads_any _ (Nat.le_of_add_right_le h) _ _).1 hany
      obtain ⟨vs, hvs, hns⟩ := (hrest hvalue hpass).1 hread
      exact ⟨_, hpass.rest ▸ .cons hvalue hvs, hns⟩
    · rintro ⟨vs, hvs, hns⟩
      generalize hbs : c.rest = bs at hvs
      cases hvs with
      | nil => simp [hbs] at hmore
      | @cons t content value rest vs hvalue hvs =>
        have hpass : c.Passes value ⟨c.position + value.length, rest⟩ := by
          refine ⟨hbs, rfl, ?_⟩
          rw [hbs, List.length_append] at h
          exact Nat.le_trans (Nat.add_le_add_left (Nat.le_add_right _ _) _) h
        exact ⟨((t, content), _), (Der.Reader.reads_any _ (Nat.le_of_add_right_le h) _ _).2
          ⟨value, hvalue, hpass⟩, (hrest hvalue hpass).2 ⟨vs, hvs, hns⟩⟩

/-- Reading an extension takes just a sequence of values, within the limit on lengths, and answers
the other names among them. -/
theorem readAll_eq_ok_iff {value : Bytes} {ns : List OtherName} :
    readAll value = .ok ns ↔ value.length ≤ maxLength ∧ AreNames ns value := by
  have hentries : ∀ content : Bytes, value.length ≤ maxLength → content.length < value.length →
      (readEntries content.length ⟨0, content⟩ = .ok ns ↔
        ∃ vs, AreValues vs content ∧ Among vs ns) := by
    intro content hfits hlt
    refine readEntries_eq_ok_iff (c := ⟨0, content⟩) (Nat.le_refl _) ?_
    rw [Nat.zero_add]
    exact Nat.le_trans (Nat.le_of_lt hlt) hfits
  rw [readAll]
  simp only [bind_eq_ok_iff, readDer_eq_ok_iff, check_eq_ok_iff,
    Der.Reader.reads_any.decode_eq_ok_iff]
  constructor
  · rintro ⟨⟨t, content⟩, ⟨hfits, hvalue⟩, htag, hread⟩
    obtain ⟨vs, hvs, hns⟩ := (hentries content hfits hvalue.length_lt).1 hread
    exact ⟨hfits, .mk hvs hns (not_not.1 htag ▸ hvalue)⟩
  · rintro ⟨hfits, @⟨vs, content, _, hvs, hns, hvalue⟩⟩
    exact ⟨(.sequence, content), ⟨hfits, hvalue⟩, not_not.2 rfl,
      (hentries content hfits hvalue.length_lt).2 ⟨vs, hvs, hns⟩⟩

/-! ## What it refuses -/

theorem kind_of_readDer {α : Type} {x : Except Der.Error α} {e : Error}
    (h : readDer x = .error e) : e.kind = .parse := by
  cases x with
  | error cause => cases h; rfl
  | ok a => cases h

/-- If each of two steps fails in one kind only, both together do. -/
theorem kind_of_bind {α β : Type} {x : Except Error α} {f : α → Except Error β} {e : Error}
    {k : ErrorKind} (h : (x >>= f) = .error e) (hx : ∀ e, x = .error e → e.kind = k)
    (hf : ∀ a e, f a = .error e → e.kind = k) : e.kind = k := by
  cases x with
  | error e' => cases h; exact hx _ rfl
  | ok a => exact hf a _ h

theorem kind_of_check {α : Type} {p : Prop} [Decidable p] {e e' : Error} {x : Except Error α}
    {f : PUnit → Except Error α} {k : ErrorKind}
    (h : (if p then throw e' >>= f else x) = .error e) (he : e'.kind = k)
    (hx : x = .error e → e.kind = k) : e.kind = k := by
  split at h
  · cases h
    exact he
  · exact hx h

theorem kind_of_ofBody {body : Bytes} {e : Error} (h : ofBody body = .error e) :
    e.kind = .parse := by
  refine kind_of_bind h (fun _ => kind_of_readDer) fun _ _ h => ?_
  refine kind_of_bind h (fun _ => kind_of_readDer) fun _ _ h => ?_
  refine kind_of_check h rfl fun h => ?_
  refine kind_of_check h rfl fun h => ?_
  exact kind_of_bind h (fun _ => kind_of_readDer) fun _ _ h => nomatch h

theorem kind_of_readEntries {fuel : Nat} {c : Der.Cursor} {e : Error}
    (h : readEntries fuel c = .error e) : e.kind = .parse := by
  induction fuel generalizing c e with
  | zero => cases h
  | succ fuel ih =>
    rw [readEntries] at h
    split at h
    · cases h
    refine kind_of_bind h (fun _ => kind_of_readDer) fun _ e h => ?_
    dsimp only at h
    split at h
    · refine kind_of_bind h (fun _ => kind_of_ofBody) fun _ _ h => ?_
      exact kind_of_bind h (fun _ => ih) fun _ _ h => nomatch h
    · exact ih h

theorem kind_of_readAll {value : Bytes} {e : Error} (h : readAll value = .error e) :
    e.kind = .parse := by
  refine kind_of_bind h (fun _ => kind_of_readDer) fun _ _ h => ?_
  exact kind_of_check h rfl kind_of_readEntries

/-- Reading an extension answers the other names of a sequence of values within the limit on
lengths, all of them well formed, and refuses everything else as unreadable. -/
theorem readAll_grammar (value : Bytes) :
    (∀ ns, readAll value = .ok ns ↔ value.length ≤ maxLength ∧ AreNames ns value) ∧
      ((∀ ns, ¬ (value.length ≤ maxLength ∧ AreNames ns value)) →
        ∃ e, readAll value = .error e ∧ e.kind = .parse) := by
  refine ⟨fun ns => readAll_eq_ok_iff, fun hnone => ?_⟩
  cases h : readAll value with
  | ok ns => exact absurd (readAll_eq_ok_iff.1 h) (hnone ns)
  | error e => exact ⟨e, rfl, kind_of_readAll h⟩

end OtherName

end NodePki
