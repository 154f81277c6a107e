import NodePki.Proofs.Summary
import NodePki.X509.Unsigned

/-!
# Other names that a summary leaves out

A summary is made with two readers of the same octets. To the lenient one an entry is an other name if
it has the number of other names, to the strict one if it has their tag, which also says that the entry
is made of values. What a summary lists is found by both, in the order of the entries; but an entry
that has the number alone, a bare one, is passed over by the strict reader. So a summary lists every
other name exactly if none is bare (`CertificateSummary.omitsNone_iff`), and not always
(`CertificateSummary.not_omitsNone_bare`).
-/

namespace NodePki

open Der (Tag tlv tlvs maxLength)

namespace X509

/-- The value has the number of other names, and a tag that says that it is not made of values. -/
def Element.isBareOtherName (e : Element) : Bool := e.number = 0 && !e.constructed

namespace AlternativeName

/-- Whether an entry is an other name. -/
def isOtherName : AlternativeName → Bool
  | otherName _ _ => true
  | _ => false

/-- The entry that stands for an other name. -/
def ofOtherName (n : OtherName) : AlternativeName := ofGeneralName (.otherName n)

/-- The values that the entries of an extension value are read from. -/
def elements? (value : Bytes) : Option (List Element) := do
  let (e, _) ← Element.expect Element.sequenceNumber value
  Reader.all? Element.read e.content

end AlternativeName

/-- The values that the entries of a certificate's extension are read from. -/
def Certificate.nameElements (c : Certificate) : List Element :=
  match c.extensionsOf .subjectAltName with
  | [e] => (AlternativeName.elements? e.value).getD []
  | _ => []

/-! ## Values and entries -/

theorem Reader.all?_eq_some_iff {α : Type} {r : Reader α} {content : Bytes} {as : List α} :
    Reader.all? r content = some as ↔ Reader.many r content.length content = (as, []) := by
  unfold Reader.all?
  split
  · next as' h => simp [h]
  · next hrest =>
    simp only [reduceCtorEq, false_iff]
    exact hrest as

namespace AlternativeName

variable {e : Element} {a : AlternativeName} {value : Bytes} {entries : List AlternativeName}

theorem read_apply (bs : Bytes) :
    read bs = (Element.read bs).bind fun p => (ofElement? p.1).map (·, p.2) := rfl

/-- Entries up to the end of a content are read from values up to its end, each from one. -/
theorem exists_many {n : Nat} {bs : Bytes} (h : Reader.many read n bs = (entries, [])) :
    ∃ es, Reader.many Element.read n bs = (es, []) ∧
      List.Forall₂ (fun e a => ofElement? e = some a) es entries := by
  induction n generalizing bs entries with
  | zero =>
    cases h
    exact ⟨[], rfl, .nil⟩
  | succ n ih =>
    rw [Reader.many, read_apply] at h
    rw [Reader.many]
    cases hread : Element.read bs with
    | none =>
      rw [hread] at h
      cases h
      exact ⟨[], rfl, .nil⟩
    | some p =>
      obtain ⟨e, rest⟩ := p
      rw [hread, Option.bind_some] at h
      cases ha : ofElement? e with
      | none =>
        -- the content would be at its end where a value was read
        rw [ha] at h
        cases h
        cases hread
      | some a =>
        rw [ha] at h
        have hleft : (Reader.many read n rest).2 = [] := congrArg Prod.snd h
        obtain ⟨es, hes, hothers⟩ := ih (Prod.ext rfl hleft)
        obtain rfl : a :: (Reader.many read n rest).1 = entries := congrArg Prod.fst h
        refine ⟨e :: es, ?_, .cons ha hothers⟩
        dsimp only
        rw [hes]
        rfl

theorem exists_elements (h : ofExtension? value = some entries) :
    ∃ es, elements? value = some es ∧
      List.Forall₂ (fun e a => ofElement? e = some a) es entries := by
  obtain ⟨⟨e, rest⟩, hexpect, hall⟩ := Option.bind_eq_some_iff.1 h
  obtain ⟨es, hes, hforall⟩ := exists_many (Reader.all?_eq_some_iff.1 hall)
  have helements : elements? value = some es :=
    Option.bind_eq_some_iff.2 ⟨(e, rest), hexpect, Reader.all?_eq_some_iff.2 hes⟩
  exact ⟨es, helements, hforall⟩

/-- The values of a written sequence. -/
theorem elements?_tlv {vs : List (Tag × Bytes)}
    (h : (tlv .sequence (tlvs vs)).length < UInt64.size) :
    elements? (tlv .sequence (tlvs vs)) = some (vs.map fun v => .ofTag v.1 v.2) := by
  have hexpect : Element.expect Element.sequenceNumber (tlv .sequence (tlvs vs) ++ []) =
      some (.ofTag .sequence (tlvs vs), []) :=
    Element.takes_expect (b := Tag.sequence.octet) rfl (by decide) _ h []
  have hall : Reader.all? Element.read (tlvs vs) = some (vs.map fun v => .ofTag v.1 v.2) :=
    all?_flatMap rfl (fun v _ => Element.takes_tlv v.1 v.2) (Element.length_lt_of_tlvOf h)
  rw [List.append_nil] at hexpect
  rw [elements?, hexpect]
  exact hall

/-- An entry is an other name by the number of its value, whose class is that of the context. -/
theorem isOtherName_of_ofElement? (h : ofElement? e = some a) :
    e.cls = Element.contextClass ∧ a.isOtherName = decide (e.number = 0) := by
  rw [ofElement?] at h
  split at h
  · cases h
  · next hcls =>
    refine ⟨not_not.1 hcls, ?_⟩
    split at h
    case h_10 => cases h
    case h_6 hnumber | h_7 hnumber | h_8 hnumber | h_9 hnumber =>
      cases h
      simp [isOtherName, hnumber]
    all_goals
      obtain ⟨_, -, rfl⟩ := Option.map_eq_some_iff.1 h
      simp [isOtherName, *]

/-- The tag of an entry that is no other name to the strict reader, but has the number of one. -/
theorem isBareOtherName_of_ne {t : Tag} {content : Bytes}
    (hcls : (Element.ofTag t content).cls = Element.contextClass) (h : t ≠ otherNameTag) :
    (Element.ofTag t content).isBareOtherName =
      decide ((Element.ofTag t content).number = 0) := by
  have hbare : (Element.ofTag t content).number = 0 →
      (Element.ofTag t content).constructed = false := by
    revert hcls h
    cases t with
    | numbered cls constructed number =>
      revert number
      cases cls <;> cases constructed <;> simp only [Element.ofTag, Element.ofOctet] <;> decide
    | _ => simp only [Element.ofTag, Element.ofOctet]; decide
  unfold Element.isBareOtherName
  by_cases hzero : (Element.ofTag t content).number = 0
  · simp [hzero, hbare hzero]
  · simp [hzero]

theorem ofElement?_body {n : OtherName} (h : n.body.length ≤ maxLength) :
    ofElement? (.ofTag otherNameTag n.body) = some (ofOtherName n) := by
  have hparts := n.length_body
  refine ofElement?_otherName n.oid _ (Nat.lt_of_le_of_lt ?_ (show maxLength < UInt64.size by decide))
  omega

/-- Of the entries that are other names the strict reader finds all but the bare ones. -/
theorem sublist_of_among {vs : List (Tag × Bytes)} {ns : List OtherName}
    (walk : List.Forall₂ (fun v a => ofElement? (.ofTag v.1 v.2) = some a) vs entries)
    (names : OtherName.Among vs ns) (fits : ∀ v ∈ vs, v.2.length ≤ maxLength) :
    (ns.map ofOtherName).Sublist (entries.filter isOtherName) ∧
      (entries.filter isOtherName).length =
        ns.length + (vs.map fun v => Element.ofTag v.1 v.2).countP Element.isBareOtherName := by
  induction walk generalizing ns with
  | nil =>
    cases names
    exact ⟨.slnil, rfl⟩
  | @cons v a vs entries first others ih =>
    obtain ⟨t, content⟩ := v
    rw [List.forall_mem_cons] at fits
    rw [OtherName.among_cons] at names
    have hother := isOtherName_of_ofElement? first
    split at names
    · next htag =>
      obtain ⟨n, ms, hbody, hms, rfl⟩ := names
      obtain ⟨hsub, hlength⟩ := ih hms fits.2
      obtain ⟨-, rfl⟩ := (OtherName.isBody_iff fits.1).1 hbody
      subst htag
      obtain rfl : ofOtherName n = a := Option.some.inj ((ofElement?_body fits.1).symm.trans first)
      have hlisted : (ofOtherName n).isOtherName = true := rfl
      have hwhole : (Element.ofTag otherNameTag n.body).isBareOtherName = false := rfl
      rw [List.filter_cons_of_pos hlisted, List.map_cons, List.map_cons,
        List.countP_cons_of_neg (by simp [hwhole]), List.length_cons, List.length_cons, hlength]
      exact ⟨hsub.cons_cons _, Nat.add_right_comm ..⟩
    · next htag =>
      obtain ⟨hsub, hlength⟩ := ih names fits.2
      have hbare := isBareOtherName_of_ne hother.1 htag
      rw [← hother.2] at hbare
      rw [List.filter_cons, List.map_cons, List.countP_cons, hbare]
      cases a.isOtherName with
      | true => exact ⟨hsub.cons _, by simp [hlength, Nat.add_assoc]⟩
      | false => exact ⟨hsub, by simpa using hlength⟩

end AlternativeName

end X509

/-! ## Summaries -/

namespace CertificateSummary

open X509 (AlternativeName Certificate Element)

/-- The summary lists the other names among the entries: each of them once, and in their order. -/
def ListsOtherNames (s : CertificateSummary) (entries : List AlternativeName) : Prop :=
  entries.filter AlternativeName.isOtherName = s.otherNames.map AlternativeName.ofOtherName

/-- The summary of the certificate at the start of some octets, if there is one, lists all other names
that the lenient reader finds in the certificate. -/
def OmitsNone (der : Bytes) : Prop :=
  ∀ c s, Certificate.ofDer? der = some c → ofDer der = .ok s →
    ∃ entries, c.alternativeNames? = some entries ∧ s.ListsOtherNames entries

/-- The summary lists other names among the entries, each of them once and in their order, and lacks as
many more as said. -/
structure Lacks (s : CertificateSummary) (entries : List AlternativeName) (count : Nat) : Prop where
  listed : (s.otherNames.map AlternativeName.ofOtherName).Sublist
    (entries.filter AlternativeName.isOtherName)
  missed : (entries.filter AlternativeName.isOtherName).length = s.otherNames.length + count

variable {c : Certificate} {s : CertificateSummary} {entries : List AlternativeName}

theorem Lacks.listsOtherNames_iff {count : Nat} (h : s.Lacks entries count) :
    s.ListsOtherNames entries ↔ count = 0 := by
  have hmissed := h.missed
  constructor
  · intro hlists
    rw [hlists, List.length_map] at hmissed
    omega
  · rintro rfl
    refine (h.listed.eq_of_length ?_).symm
    rw [List.length_map, hmissed, Nat.add_zero]

/-- What a summary lacks are the bare other names. -/
theorem exists_lacks (h : ofCertificate c = .ok s) :
    ∃ entries, c.alternativeNames? = some entries ∧
      s.Lacks entries (c.nameElements.countP Element.isBareOtherName) := by
  obtain ⟨entries, hentries, hnames⟩ := readers_of_ofCertificate h
  refine ⟨entries, hentries, ?_⟩
  rw [Certificate.alternativeNames?] at hentries
  rw [otherNamesOf] at hnames
  rw [Certificate.nameElements]
  cases hof : c.extensionsOf .subjectAltName with
  | nil =>
    rw [hof] at hentries hnames
    cases hentries
    exact ⟨by simp [← Except.ok.inj hnames], by simp [← Except.ok.inj hnames]⟩
  | cons e more =>
    cases more with
    | cons e' more =>
      rw [hof] at hentries
      cases hentries
    | nil =>
      rw [hof] at hentries hnames
      dsimp only at hentries hnames ⊢
      obtain ⟨hfits, hnames⟩ := OtherName.readAll_eq_ok_iff.1 hnames
      obtain ⟨vs, among, hvalue⟩ := (OtherName.areNames_iff hfits).1 hnames
      rw [hvalue] at hfits hentries ⊢
      have hlt : (tlv .sequence (tlvs vs)).length < UInt64.size :=
        Nat.lt_of_le_of_lt hfits (by decide)
      obtain ⟨es, hes, hwalk⟩ := AlternativeName.exists_elements hentries
      rw [AlternativeName.elements?_tlv hlt, Option.some.injEq] at hes
      rw [← hes, List.forall₂_map_left_iff] at hwalk
      have fits : ∀ v ∈ vs, v.2.length ≤ maxLength := fun v hv => by
        have hinner := Der.length_lt_of_mem hv
        have houter := Der.length_lt_length_tlv .sequence (tlvs vs)
        omega
      rw [AlternativeName.elements?_tlv hlt, Option.getD_some]
      obtain ⟨hlisted, hmissed⟩ := AlternativeName.sublist_of_among hwalk among fits
      exact ⟨hlisted, hmissed⟩

/-- What a summary lists of the other names are entries that the lenient reader takes for other names,
each once and in their order, and it lacks as many of them as are bare. So it lists them all exactly if
none is bare. -/
theorem omitsNone_iff (der : Bytes) :
    (∀ c s, Certificate.ofDer? der = some c → ofDer der = .ok s →
      ∃ entries, c.alternativeNames? = some entries ∧
        s.Lacks entries (c.nameElements.countP Element.isBareOtherName)) ∧
      (OmitsNone der ↔ ∀ c s, Certificate.ofDer? der = some c → ofDer der = .ok s →
        ∀ e ∈ c.nameElements, ¬ e.isBareOtherName) := by
  have hlacks : ∀ c s, Certificate.ofDer? der = some c → ofDer der = .ok s →
      ∃ entries, c.alternativeNames? = some entries ∧
        s.Lacks entries (c.nameElements.countP Element.isBareOtherName) :=
    fun c s hread hs => exists_lacks (ofDer_eq_ofCertificate hread ▸ hs)
  refine ⟨hlacks, ?_⟩
  constructor
  · intro omits c s hread hs
    obtain ⟨entries, hentries, lacks⟩ := hlacks c s hread hs
    obtain ⟨entries', hentries', lists⟩ := omits c s hread hs
    rw [hentries, Option.some.injEq] at hentries'
    subst hentries'
    exact List.countP_eq_zero.1 (lacks.listsOtherNames_iff.1 lists)
  · intro hnone c s hread hs
    obtain ⟨entries, hentries, lacks⟩ := hlacks c s hread hs
    exact ⟨entries, hentries,
      lacks.listsOtherNames_iff.2 (List.countP_eq_zero.2 (hnone c s hread hs))⟩

/-- A certificate with little but an extension with alternative names. -/
def certificateWith (value : Bytes) : Bytes :=
  let time := X509.encodeTime (.ofSeconds 0)
  let algorithm := Der.sequence [Der.objectIdentifier [0x2b, 0x65, 0x70]]
  Der.sequence [
    Der.sequence [
      Der.natural 1, algorithm, Der.sequence [], Der.sequence [time, time], Der.sequence [],
      Der.sequence [algorithm, Der.bitString 0 []],
      tlv (.contextConstructed 3)
        (Der.sequence [X509.Extension.encode ⟨.subjectAltName, false, value⟩])],
    algorithm, Der.bitString 0 []]

/-- A bare other name between two others: the summary lists these, and lacks one. -/
theorem omitsNone_iff_two_of_three :
    let name (text : String) : OtherName := ⟨.commonName, text⟩
    let der := certificateWith (Der.sequence [
      tlv otherNameTag (name "a").body, tlv (.contextPrimitive 0) (name "b").body,
      tlv otherNameTag (name "c").body])
    ∃ c s entries, Certificate.ofDer? der = some c ∧ ofDer der = .ok s ∧
      c.alternativeNames? = some entries ∧ s.otherNames = [name "a", name "c"] ∧
      s.Lacks entries 1 := by
  intro name der
  have hcertificate : (Certificate.ofDer? der).any
      (·.nameElements.countP Element.isBareOtherName = 1) := by decide +kernel
  have hsummary : (ofDer der).toOption.any (·.otherNames = [name "a", name "c"]) := by
    decide +kernel
  obtain ⟨c, hread, hcount⟩ := (Option.any_eq_true _ _).1 hcertificate
  obtain ⟨s, hs, hnames⟩ := exists_ok_of_any hsummary
  obtain ⟨entries, hentries, lacks⟩ := (omitsNone_iff der).1 c s hread hs
  rw [of_decide_eq_true hcount] at lacks
  exact ⟨c, s, entries, hread, hs, hentries, of_decide_eq_true hnames, lacks⟩

/-- A certificate whose only other name is bare: the lenient reader finds it, and the summary has
none. -/
theorem not_omitsNone_bare :
    let name : OtherName := ⟨.commonName, "data-0.node.search.prod.es.cluster.local"⟩
    let der := certificateWith (Der.sequence [
      tlv dnsNameTag (Utf8.encode "data-0"), tlv (.contextPrimitive 0) name.body])
    ∃ c s, Certificate.ofDer? der = some c ∧ ofDer der = .ok s ∧
      c.alternativeNames? = some [.dnsName "data-0", .ofOtherName name] ∧
      s.dnsNames = ["data-0"] ∧ s.otherNames = [] ∧ ¬ OmitsNone der := by
  intro name der
  have hcertificate : (Certificate.ofDer? der).any
      (·.alternativeNames? = some [.dnsName "data-0", .ofOtherName name]) := by decide +kernel
  have hsummary : (ofDer der).toOption.any
      (fun s => s.dnsNames = ["data-0"] ∧ s.otherNames = []) := by decide +kernel
  obtain ⟨c, hread, hentries⟩ := (Option.any_eq_true _ _).1 hcertificate
  obtain ⟨s, hs, hlisted⟩ := exists_ok_of_any hsummary
  have hentries : c.alternativeNames? = some [.dnsName "data-0", .ofOtherName name] :=
    of_decide_eq_true hentries
  obtain ⟨hdns, hnone⟩ : s.dnsNames = ["data-0"] ∧ s.otherNames = [] := of_decide_eq_true hlisted
  refine ⟨c, s, hread, hs, hentries, hdns, hnone, fun omits => ?_⟩
  obtain ⟨entries, hentries', lists⟩ := omits c s hread hs
  rw [hentries, Option.some.injEq] at hentries'
  rw [ListsOtherNames, ← hentries', hnone] at lists
  cases lists

end CertificateSummary

end NodePki
