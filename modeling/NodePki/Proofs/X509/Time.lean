import NodePki.Proofs.Time.Civil
import NodePki.Proofs.X509.Element
import NodePki.X509.Unsigned

/-!
# Reading written times

A written moment is read back to the second (`takes_encodeTime`). Of a year that does not have four
digits the last four are written, or those of year 0 if it is before that; such a time is read too,
as no leap day loses its year. Of a year with four digits no second is lost (`toSeconds_ofInstant`),
and a moment that is not too late is written as before once it was read (`encodeTime_ofInstant`).
-/

namespace NodePki.X509

namespace Time

/-- The year that stands for a year in a written time. -/
def writtenYear (y : Int) : Int := if 1950 ≤ y ∧ y < 2050 then y else (y.toNat % 10000 : Nat)

theorem isLeap_writtenYear {y : Int} (h : Date.isLeap y) : Date.isLeap (writtenYear y) := by
  rw [writtenYear]
  split
  · exact h
  · simp only [Date.isLeap, Bool.and_eq_true, Bool.or_eq_true, beq_iff_eq, bne_iff_ne] at h ⊢
    omega

theorem writtenYear_of_nonneg {y : Int} (first : 0 ≤ y) (last : y ≤ 9999) : writtenYear y = y := by
  rw [writtenYear]
  split <;> omega

theorem writtenYear_of_neg {y : Int} (h : y < 0) : writtenYear y = 0 := by
  rw [writtenYear, if_neg (by omega)]
  omega

/-! ## Digits -/

theorem characters_append (x y : Bytes) : characters (x ++ y) = characters x ++ characters y :=
  List.map_append

theorem twoDigits?_digits (a b : Fin 10) :
    twoDigits? (Char.ofNat (UInt8.ofNat (0x30 + a.val)).toNat)
      (Char.ofNat (UInt8.ofNat (0x30 + b.val)).toNat) = some (a.val * 10 + b.val) := by
  revert a b
  decide

theorem decimalOctets_two (n : Nat) :
    decimalOctets 2 n = [UInt8.ofNat (0x30 + n / 10 % 10), UInt8.ofNat (0x30 + n % 10)] := by
  simp [decimalOctets, Nat.pow_eq]

theorem decimalOctets_four (n : Nat) :
    decimalOctets 4 n = decimalOctets 2 (n / 100) ++ decimalOctets 2 n := by
  simp [decimalOctets, Nat.pow_eq, Nat.div_div_eq_div_mul]

theorem two?_decimalOctets (n : Nat) (cs : List Char) :
    two? (characters (decimalOctets 2 n) ++ cs) = some (n % 100, cs) := by
  have hdigits := twoDigits?_digits ⟨n / 10 % 10, Nat.mod_lt _ (by decide)⟩
    ⟨n % 10, Nat.mod_lt _ (by decide)⟩
  have hn : n / 10 % 10 * 10 + n % 10 = n % 100 := by omega
  rw [decimalOctets_two]
  exact congrArg (Option.map (·, cs)) (hdigits.trans (congrArg some hn))

theorem seconds?_decimalOctets (n : Nat) (c : Char) (cs : List Char) :
    seconds? (characters (decimalOctets 2 n) ++ c :: cs) = some (n % 100, c :: cs) := by
  rw [← two?_decimalOctets, decimalOctets_two]
  rfl

/-! ## Times -/

/-- The characters of month, day, hour, minute and second, and the mark of universal time. -/
def clock (month day hour minute second : Nat) : List Char :=
  characters ([month, day, hour, minute, second].flatMap (decimalOctets 2) ++ [0x5a])

theorem clock_eq (month day hour minute second : Nat) :
    clock month day hour minute second =
      characters (decimalOctets 2 month) ++ (characters (decimalOctets 2 day) ++
        (characters (decimalOctets 2 hour) ++ (characters (decimalOctets 2 minute) ++
          (characters (decimalOctets 2 second) ++ ['Z'])))) := by
  simp only [clock, List.flatMap_cons, List.flatMap_nil, characters_append, List.append_nil,
    List.append_assoc]
  rfl

section Clock

variable (year month day hour minute second : Nat)

theorem short?_clock :
    short? (characters (decimalOctets 2 year) ++ clock month day hour minute second) =
      make? (if year % 100 < 50 then 2000 + (year % 100 : Nat) else 1900 + (year % 100 : Nat))
        (month % 100) (day % 100) (hour % 100) (minute % 100) (second % 100) 0 := by
  simp only [short?, clock_eq, two?_decimalOctets, seconds?_decimalOctets, Option.bind_eq_bind,
    Option.bind_some]
  rfl

theorem long?_clock :
    long? (characters (decimalOctets 4 year) ++ clock month day hour minute second) =
      make? (year % 10000 : Nat) (month % 100) (day % 100) (hour % 100) (minute % 100)
        (second % 100) 0 := by
  have hyear : ((year / 100 % 100 : Nat) : Int) * 100 + (year % 100 : Nat) = (year % 10000 : Nat) := by
    omega
  rw [← hyear]
  simp only [long?, clock_eq, decimalOctets_four, characters_append, List.append_assoc,
    two?_decimalOctets, seconds?_decimalOctets, Option.bind_eq_bind, Option.bind_some]
  rfl

end Clock

/-- The time that stands for a moment: its second in universal time. -/
def ofInstant (i : Instant) : Time :=
  let (date, hour, minute, second) := i.civil
  ⟨⟨writtenYear date.year, date.month, date.day⟩, hour, minute, second, 0⟩

theorem isValid_ofInstant (i : Instant) : (ofInstant i).date.isValid :=
  Date.isValid_of_isLeap (Date.isValid_ofDays _) isLeap_writtenYear

theorem clock_le (i : Instant) :
    (ofInstant i).hour ≤ 23 ∧ (ofInstant i).minute ≤ 59 ∧ (ofInstant i).second ≤ 59 := by
  simp only [ofInstant, Instant.civil]
  omega

/-- The parts of a moment have at most two digits each and are in their ranges. -/
theorem make?_ofInstant (i : Instant) :
    let t := ofInstant i
    make? t.date.year (t.date.month % 100) (t.date.day % 100) (t.hour % 100) (t.minute % 100)
      (t.second % 100) 0 = some t := by
  intro t
  have hvalid : t.date.isValid := isValid_ofInstant i
  have hmonth := Date.month_le_of_isValid hvalid
  have hday := Date.day_le_of_isValid hvalid
  obtain ⟨hhour, hminute, hsecond⟩ : t.hour ≤ 23 ∧ t.minute ≤ 59 ∧ t.second ≤ 59 := clock_le i
  have hoffset : t.offset = 0 := rfl
  rw [Nat.mod_eq_of_lt (by omega), Nat.mod_eq_of_lt (by omega), Nat.mod_eq_of_lt (by omega),
    Nat.mod_eq_of_lt (by omega), Nat.mod_eq_of_lt (by omega), ← hoffset]
  refine if_pos ?_
  simp only [Bool.and_eq_true, decide_eq_true_eq]
  exact ⟨⟨⟨hvalid, hhour⟩, hminute⟩, hsecond⟩

theorem takes_short {content : Bytes} {t : Time} (h : short? (characters content) = some t) :
    Takes read (Der.tlv .utcTime content) t := by
  refine (Element.takes_tlv .utcTime content).bind_nil ?_
  rw [if_pos (show (Element.ofTag .utcTime content).number = 23 from rfl)]
  exact fun _ rest => congrArg (Option.map (·, rest)) h

theorem takes_long {content : Bytes} {t : Time} (h : long? (characters content) = some t) :
    Takes read (Der.tlv .generalizedTime content) t := by
  refine (Element.takes_tlv .generalizedTime content).bind_nil ?_
  have hnumber : (Element.ofTag .generalizedTime content).number = 24 := rfl
  rw [if_neg (by rw [hnumber]; decide), if_pos hnumber]
  exact fun _ rest => congrArg (Option.map (·, rest)) h

/-- A written moment is read back. -/
theorem takes_encodeTime (i : Instant) : Takes read (encodeTime i) (ofInstant i) := by
  have hmake := make?_ofInstant i
  obtain ⟨⟨date, hour, minute, second⟩, hcivil⟩ : ∃ c, i.civil = c := ⟨_, rfl⟩
  simp only [ofInstant, encodeTime, hcivil] at hmake ⊢
  split
  · next hshort =>
    have hyear : (if date.year.toNat % 100 % 100 < 50 then
        2000 + ((date.year.toNat % 100 % 100 : Nat) : Int)
        else 1900 + ((date.year.toNat % 100 % 100 : Nat) : Int)) = writtenYear date.year := by
      rw [writtenYear, if_pos hshort]
      split <;> omega
    refine takes_short ?_
    rw [characters_append, ← hmake, ← hyear]
    exact short?_clock ..
  · next hlong =>
    have hyear : ((date.year.toNat % 10000 : Nat) : Int) = writtenYear date.year := by
      rw [writtenYear, if_neg hlong]
    refine takes_long ?_
    rw [characters_append, ← hmake, ← hyear]
    exact long?_clock ..

/-- A day that is not too late has a year of at most four digits. -/
theorem year_le {i : Instant} (last : i.nanos ≤ Instant.latest.nanos) :
    (Date.ofDays (i.seconds / 86400)).year ≤ 9999 := by
  have hlast : i.nanos ≤ 253402300799999999999 := last
  refine Date.year_ofDays_le ?_
  show i.nanos / 1000000000 / 86400 ≤ 2932896
  omega

theorem civil_ofSeconds {d : Date} {hour minute second : Nat} (hdays : Date.ofDays d.toDays = d)
    (hhour : hour ≤ 23) (hminute : minute ≤ 59) (hsecond : second ≤ 59) :
    (Instant.ofSeconds (toSeconds ⟨d, hour, minute, second, 0⟩)).civil = (d, hour, minute, second) := by
  have hseconds : (Instant.ofSeconds (toSeconds ⟨d, hour, minute, second, 0⟩)).seconds =
      d.toDays * 86400 + (hour * 3600 + minute * 60 + second : Nat) := by
    simp only [Instant.seconds, Instant.ofSeconds, toSeconds]
    omega
  have hday : (d.toDays * 86400 + (hour * 3600 + minute * 60 + second : Nat)) / 86400 = d.toDays := by
    omega
  have hclock : ((d.toDays * 86400 + (hour * 3600 + minute * 60 + second : Nat)) % 86400).toNat =
      hour * 3600 + minute * 60 + second := by
    omega
  simp only [Instant.civil, hseconds, hday, hclock, hdays, Prod.mk.injEq, true_and]
  omega

/-- A moment whose year has at most four digits is the second for which its time stands. -/
theorem toSeconds_ofInstant {i : Instant} (first : -719468 * 86400 ≤ i.seconds)
    (last : i.nanos ≤ Instant.latest.nanos) : (ofInstant i).toSeconds = i.seconds := by
  have hhigh := year_le last
  have hlow := Date.year_ofDays_nonneg (n := i.seconds / 86400) (by omega)
  have hyear := writtenYear_of_nonneg hlow hhigh
  have hday := Date.toDays_ofDays (i.seconds / 86400)
  simp only [toSeconds, ofInstant, Instant.civil, hyear, hday]
  omega

/-- The date of a written moment is that of a day. -/
theorem ofDays_toDays_ofInstant {i : Instant} (last : i.nanos ≤ Instant.latest.nanos) :
    Date.ofDays (ofInstant i).date.toDays = (ofInstant i).date := by
  have hdate : (ofInstant i).date =
      { Date.ofDays (i.seconds / 86400) with
        year := writtenYear (Date.ofDays (i.seconds / 86400)).year } := rfl
  by_cases first : 0 ≤ (Date.ofDays (i.seconds / 86400)).year
  · rw [hdate, writtenYear_of_nonneg first (year_le last), Date.toDays_ofDays]
  · have hvalid := isValid_ofInstant i
    rw [hdate, writtenYear_of_neg (Int.not_le.1 first)] at hvalid ⊢
    exact Date.ofDays_toDays_zero hvalid

/-- A moment that was written and read is written as before. -/
theorem encodeTime_ofInstant {i : Instant} (last : i.nanos ≤ Instant.latest.nanos) :
    encodeTime (.ofSeconds (ofInstant i).toSeconds) = encodeTime i := by
  obtain ⟨hhour, hminute, hsecond⟩ := clock_le i
  have hcivil : (Instant.ofSeconds (ofInstant i).toSeconds).civil = _ :=
    civil_ofSeconds (ofDays_toDays_ofInstant last) hhour hminute hsecond
  have hyear := year_le last
  by_cases first : 0 ≤ (Date.ofDays (i.seconds / 86400)).year
  · have hsame : (Instant.ofSeconds (ofInstant i).toSeconds).civil = i.civil := by
      rw [hcivil]
      simp only [Instant.civil, writtenYear_of_nonneg first hyear]
    rw [encodeTime, encodeTime, hsame]
  · have hneg := Int.not_le.1 first
    rw [encodeTime, hcivil, encodeTime]
    simp only [Instant.civil, writtenYear_of_neg hneg, Int.toNat_of_nonpos hneg.le]
    rw [if_neg (by omega), if_neg (by omega)]
    rfl

end Time

end NodePki.X509
