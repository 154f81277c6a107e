import Mathlib.Tactic.IntervalCases
import NodePki.Time.Civil

/-!
# Dates of days

Every day falls on a date that its month has (`isValid_ofDays`), and is counted back from it
(`toDays_ofDays`). The year within an era of 400 years comes from one quotient; `yearOfEra_eq` finds it
by centuries, spans of four years and the days beyond.
-/

namespace NodePki.Date

/-- The quotient that gives the year of a day: a century has 36524 days but for the last of an era,
and four years have 1461 but for the last of a century. -/
theorem yearOfEra_eq {d century span day : Nat} (hd : d = 36524 * century + 1461 * span + day)
    (hcentury : century ≤ 3) (hspan : 1461 * span + day < 36524) (hday : day < 1461) :
    (d - d / 1460 + d / 36524 - d / 146096) / 365 = 100 * century + 4 * span + min (day / 365) 3 := by
  have hspans : d / 1460 = 25 * century + span + (24 * century + span + day) / 1460 := by omega
  have hcenturies : d / 36524 = century := by omega
  have hera : d / 146096 = 0 := by omega
  rw [hspans, hcenturies, hera]
  omega

/-- The year of a day, for all days but the last of an era. -/
theorem exists_yearOfEra {d y : Nat} (h : d < 146096)
    (hy : y = (d - d / 1460 + d / 36524 - d / 146096) / 365) :
    ∃ century span day, d = 36524 * century + 1461 * span + day ∧ century ≤ 3 ∧
      1461 * span + day < 36524 ∧ day < 1461 ∧ y = 100 * century + 4 * span + min (day / 365) 3 ∧
      y / 100 = century ∧ y / 4 = 25 * century + span := by
  have hd : d = 36524 * (d / 36524) + 1461 * (d % 36524 / 1461) + d % 36524 % 1461 := by omega
  have hcentury : d / 36524 ≤ 3 := by omega
  have hspan : 1461 * (d % 36524 / 1461) + d % 36524 % 1461 < 36524 := by omega
  have hday : d % 36524 % 1461 < 1461 := by omega
  rw [yearOfEra_eq hd hcentury hspan hday] at hy
  exact ⟨_, _, _, hd, hcentury, hspan, hday, hy, by omega, by omega⟩

/-- The days of an era beyond whole years are days of a year, and the last day of a leap year only
if the next year, in which the year from March ends, is one. -/
theorem dayOfYear_le {d y : Nat} (h : d < 146097)
    (hy : y = (d - d / 1460 + d / 36524 - d / 146096) / 365) :
    d - (365 * y + y / 4 - y / 100) ≤ 364 ∨
      d - (365 * y + y / 4 - y / 100) = 365 ∧
        (y + 1) % 4 = 0 ∧ ((y + 1) % 100 ≠ 0 ∨ (y + 1) % 400 = 0) := by
  by_cases hlast : d = 146096
  · subst hlast hy
    decide
  · obtain ⟨century, span, day, hd, hcentury, hspan, hday, hparts, hcenturies, hspans⟩ :=
      exists_yearOfEra (by omega) hy
    clear hy
    rw [hcenturies, hspans]
    omega

/-- The years of an era are 400, and each begins by the time of its days. -/
theorem yearOfEra_bounds {d y : Nat} (h : d < 146097)
    (hy : y = (d - d / 1460 + d / 36524 - d / 146096) / 365) :
    y ≤ 399 ∧ 365 * y + y / 4 - y / 100 ≤ d := by
  by_cases hlast : d = 146096
  · subst hlast hy
    decide
  · obtain ⟨century, span, day, hd, hcentury, hspan, hday, hparts, hcenturies, hspans⟩ :=
      exists_yearOfEra (by omega) hy
    clear hy
    rw [hcenturies, hspans]
    omega

theorem daysInMonth_le {y y' : Int} (hleap : isLeap y → isLeap y') (month : Nat) :
    daysInMonth y month ≤ daysInMonth y' month := by
  unfold daysInMonth
  split <;> try exact Nat.le_refl _
  split
  · next hy => rw [if_pos (hleap hy)]
  · split <;> decide

/-- A date stays valid in another year, unless it is a leap day. -/
theorem isValid_of_isLeap {y y' : Int} {month day : Nat} (h : isValid ⟨y, month, day⟩)
    (hleap : isLeap y → isLeap y') : isValid ⟨y', month, day⟩ := by
  simp only [isValid, Bool.and_eq_true, decide_eq_true_eq] at h ⊢
  exact ⟨h.1, Nat.le_trans h.2 (daysInMonth_le hleap month)⟩

theorem month_le_of_isValid {d : Date} (h : d.isValid) : d.month ≤ 12 := by
  simp only [isValid, Bool.and_eq_true, decide_eq_true_eq] at h
  unfold daysInMonth at h
  split at h <;> omega

theorem day_le_of_isValid {d : Date} (h : d.isValid) : d.day ≤ 31 := by
  simp only [isValid, Bool.and_eq_true, decide_eq_true_eq] at h
  refine Nat.le_trans h.2 ?_
  unfold daysInMonth
  repeat' split
  all_goals decide

/-- The month and the day of a day of the year from March. -/
theorem isValid_of_dayOfYear {k : Nat} {year : Int} (h : k ≤ 365)
    (hleap : k = 365 → isLeap (year + 1)) :
    let monthFromMarch := (5 * k + 2) / 153
    let month := if monthFromMarch < 10 then monthFromMarch + 3 else monthFromMarch - 9
    isValid ⟨if month ≤ 2 then year + 1 else year, month, k - (153 * monthFromMarch + 2) / 5 + 1⟩ := by
  intro monthFromMarch
  have hlow : 153 * monthFromMarch ≤ 5 * k + 2 := by omega
  have hhigh : 5 * k + 2 < 153 * (monthFromMarch + 1) := by omega
  have hmonth : monthFromMarch ≤ 11 := by omega
  generalize monthFromMarch = m at *
  interval_cases m
  case «11» =>
    by_cases hlast : k = 365
    · simp [isValid, daysInMonth, hleap hlast, hlast]
    · have hdays : 28 ≤ daysInMonth (year + 1) 2 := by
        rw [daysInMonth]
        split <;> decide
      simp [isValid]
      omega
  all_goals simp [isValid, daysInMonth]; omega

/-- Every day falls on a date that there is. -/
theorem isValid_ofDays (n : Int) : (ofDays n).isValid := by
  have hlt : ((n + 719468) % 146097).toNat < 146097 := by omega
  have hday := dayOfYear_le hlt rfl
  refine isValid_of_dayOfYear (by omega) fun hlast => ?_
  obtain hcommon | ⟨-, hfour, hcentury⟩ := hday
  · omega
  · simp only [isLeap, Bool.and_eq_true, Bool.or_eq_true, beq_iff_eq, bne_iff_ne]
    omega

/-- A day of the year from March is counted back from its month and its day. -/
theorem toDays_of_dayOfYear {y k m month day : Nat} {era year : Int} (hy : y ≤ 399) (hk : k ≤ 365)
    (hm : m = (5 * k + 2) / 153) (hmonth : month = if m < 10 then m + 3 else m - 9)
    (hday : day = k - (153 * m + 2) / 5 + 1)
    (hyear : year = if month ≤ 2 then (y + era * 400) + 1 else y + era * 400) :
    toDays ⟨year, month, day⟩ = era * 146097 + (365 * y + y / 4 - y / 100 + k) - 719468 := by
  have hlow : 153 * m ≤ 5 * k + 2 := by omega
  have hfromMarch : (if month ≤ 2 then year - 1 else year) = y + era * 400 ∧
      (if month ≤ 2 then (month : Int) + 9 else (month : Int) - 3) = m := by
    split at hmonth <;> split at hyear <;> constructor <;> split <;> omega
  have hera : (y + era * 400) / 400 = era := by omega
  have hofEra : (y + era * 400) % 400 = y := by omega
  simp only [toDays, hfromMarch, hera, hofEra]
  omega

/-- A day is counted back from the date that it falls on. -/
theorem toDays_ofDays (n : Int) : (ofDays n).toDays = n := by
  have hlt : ((n + 719468) % 146097).toNat < 146097 := by omega
  have hsplit : (n + 719468) / 146097 * 146097 + ((n + 719468) % 146097).toNat = n + 719468 := by
    omega
  simp only [ofDays]
  generalize (n + 719468) / 146097 = era at *
  generalize ((n + 719468) % 146097).toNat = d at *
  have hday := dayOfYear_le hlt rfl
  obtain ⟨hyear, hbegins⟩ := yearOfEra_bounds hlt rfl
  generalize (d - d / 1460 + d / 36524 - d / 146096) / 365 = y at *
  rw [toDays_of_dayOfYear hyear (by omega) rfl rfl rfl rfl]
  omega

/-- The dates of the year before the first one, which has all days, are those of their days. -/
theorem ofDays_toDays_zero {month day : Nat} (h : isValid ⟨0, month, day⟩) :
    ofDays (toDays ⟨0, month, day⟩) = ⟨0, month, day⟩ := by
  have hmonth := month_le_of_isValid h
  have hday := day_le_of_isValid h
  have all : ∀ month : Fin 13, ∀ day : Fin 32, isValid ⟨0, month, day⟩ →
      ofDays (toDays ⟨0, month, day⟩) = ⟨0, month, day⟩ := by decide
  exact all ⟨month, Nat.lt_succ_of_le hmonth⟩ ⟨day, Nat.lt_succ_of_le hday⟩ h

theorem year_ofDays_nonneg {n : Int} (first : -719468 ≤ n) : 0 ≤ (ofDays n).year := by
  have hera : 0 ≤ (n + 719468) / 146097 := by omega
  simp only [ofDays]
  split <;> omega

/-- The days whose years have at most four digits. -/
theorem year_ofDays_le {n : Int} (last : n ≤ 2932896) : (ofDays n).year ≤ 9999 := by
  have hlt : ((n + 719468) % 146097).toNat < 146097 := by omega
  have hlast : (n + 719468) / 146097 * 146097 + ((n + 719468) % 146097).toNat ≤ 3652364 := by omega
  simp only [ofDays]
  generalize (n + 719468) / 146097 = era at *
  generalize ((n + 719468) % 146097).toNat = d at *
  obtain ⟨hyear, hbegins⟩ := yearOfEra_bounds hlt rfl
  generalize (d - d / 1460 + d / 36524 - d / 146096) / 365 = y at *
  -- the last year from March of the last era is cut before its January
  have hcut : era = 24 → y = 399 → (5 * (d - (365 * y + y / 4 - y / 100)) + 2) / 153 < 10 := by omega
  generalize (5 * (d - (365 * y + y / 4 - y / 100)) + 2) / 153 = m at *
  split <;> split <;> omega

end NodePki.Date
