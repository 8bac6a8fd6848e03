import ClusterWatch.Time.Calendar
import Mathlib.Tactic.IntervalCases
/-!
# Days and dates

Every day has one date and every date one day. A year that begins in March starts at the day
`yearStart`, and its months start at `monthStart`; both count from 0000-03-01, and both sides of the
correspondence are read off them.

- `yearOfEra_spec`: the year of an era that a day belongs to.
- `mem_month_iff`: the month of a year that a day belongs to.
- `dayNumber_inj`: different dates are different days.

Main results: `isValid_ofDayNumber`, `dayNumber_ofDayNumber` and `ofDayNumber_dayNumber`.
-/

namespace ClusterWatch.Time.Date

/-! ### Years -/

theorem isLeapYear_iff {year : Int} :
    isLeapYear year = true ↔ year % 4 = 0 ∧ (year % 100 ≠ 0 ∨ year % 400 = 0) := by
  simp [isLeapYear]

/-- The day at which the year that begins in March starts. -/
def yearStart (year : Int) : Int :=
  365 * year + year / 4 - year / 100 + year / 400

/-- The days of a year that begins in March: the leap day is in the February that ends it. -/
def yearLength (year : Int) : Nat :=
  if isLeapYear (year + 1) then 366 else 365

theorem yearStart_succ (year : Int) : yearStart (year + 1) = yearStart year + yearLength year := by
  unfold yearLength yearStart
  split
  · next hleap =>
    rw [isLeapYear_iff] at hleap
    omega
  · next hleap =>
    rw [isLeapYear_iff] at hleap
    omega

theorem yearStart_mono {year year' : Int} (h : year ≤ year') :
    yearStart year ≤ yearStart year' := by
  unfold yearStart
  omega

/-- A year of a later era starts as many days later as these eras have. -/
theorem yearStart_add_eras (era year : Int) :
    yearStart (era * 400 + year) = era * daysPerEra + yearStart year := by
  unfold yearStart daysPerEra
  omega

/-- A day lies in one year only. -/
theorem year_unique {day year year' : Int} (h : yearStart year ≤ day)
    (hnext : day < yearStart (year + 1)) (h' : yearStart year' ≤ day)
    (hnext' : day < yearStart (year' + 1)) : year = year' := by
  rcases lt_trichotomy year year' with hlt | heq | hlt
  · have := yearStart_mono (Int.add_one_le_of_lt hlt)
    omega
  · exact heq
  · have := yearStart_mono (Int.add_one_le_of_lt hlt)
    omega

/-- The year of the day `day` of a span of four years, in the century `century` of an era. -/
theorem yearOfEra_eq {century span day : Nat} (hcentury : century < 4) (hspan : span < 25)
    (hday : day < 1461) (hlast : span = 24 → day < 1460) :
    yearOfEra (36524 * century + 1461 * span + day) =
      100 * century + 4 * span + (day - (24 * century + span + day) / 1460) / 365 := by
  have hspans : (36524 * century + 1461 * span + day) / 1460 =
      25 * century + span + (24 * century + span + day) / 1460 := by omega
  have hcenturies : (36524 * century + 1461 * span + day) / 36524 = century := by omega
  have hera : (36524 * century + 1461 * span + day) / 146096 = 0 := by omega
  rw [yearOfEra, hspans, hcenturies, hera]
  omega

/-- The year of an era that a day of the era belongs to. -/
theorem yearOfEra_spec {day : Nat} (h : day < daysPerEra) :
    yearOfEra day < 400 ∧ yearStart (yearOfEra day) ≤ day ∧
      (day : Int) < yearStart (yearOfEra day + 1) := by
  unfold daysPerEra at h
  by_cases hend : day = 146096
  · subst hend
    decide
  · -- the day in its century, and there in its span of four years
    obtain ⟨century, rest, hcentury, hrest, rfl⟩ :
        ∃ century rest, century < 4 ∧ rest < 36524 ∧ day = 36524 * century + rest :=
      ⟨day / 36524, day % 36524, by omega, by omega, by omega⟩
    obtain ⟨span, day, hspan, hday, hlast, rfl⟩ :
        ∃ span day, span < 25 ∧ day < 1461 ∧ (span = 24 → day < 1460) ∧
          rest = 1461 * span + day :=
      ⟨rest / 1461, rest % 1461, by omega, by omega, by omega, by omega⟩
    rw [← Nat.add_assoc, yearOfEra_eq hcentury hspan hday hlast]
    -- the leap day of the span is the last of its fourth year
    obtain ⟨year, hyear⟩ : ∃ year, year = (day - (24 * century + span + day) / 1460) / 365 :=
      ⟨_, rfl⟩
    have hin : year < 4 ∧ 365 * year ≤ day ∧ (day < 365 * (year + 1) ∨ year = 3) := by omega
    rw [← hyear]
    clear hyear
    unfold yearStart
    obtain ⟨hyear, hin⟩ := hin
    interval_cases year <;> omega

/-! ### Months -/

/-- The month that a day of a year lies in. Years begin in March, and so do months. -/
def marchMonthOf (day : Nat) : Nat :=
  (5 * day + 2) / 153

/-- The calendar's number of a month that counts from March. -/
def civilMonth (month : Nat) : Nat :=
  if month < 10 then month + 3 else month - 9

/-- The calendar's year of a month of a year that begins in March. -/
def civilYear (year : Int) (month : Nat) : Int :=
  if month < 10 then year else year + 1

theorem marchMonthOf_eq_iff {day month : Nat} :
    marchMonthOf day = month ↔ monthStart month ≤ day ∧ day < monthStart (month + 1) := by
  unfold marchMonthOf monthStart
  omega

theorem le_yearLength (year : Int) : 365 ≤ yearLength year := by
  unfold yearLength
  split <;> decide

theorem yearLength_le (year : Int) : yearLength year ≤ 366 := by
  unfold yearLength
  split <;> decide

/-- The last month of a year lasts to the end of the year. -/
theorem monthStart_add_february (year : Int) :
    monthStart 11 + daysInMonth (year + 1) 2 = yearLength year := by
  unfold yearLength
  simp only [daysInMonth]
  split <;> rfl

/-- The other months last until the next one starts. -/
theorem monthStart_add_daysInMonth {month : Nat} (h : month < 11) (year : Int) :
    monthStart month + daysInMonth year (civilMonth month) = monthStart (month + 1) := by
  interval_cases month <;> rfl

/-- The days of a month are the days of the year that lie in it. -/
theorem mem_month_iff {month : Nat} (hmonth : month < 12) (year : Int) (day : Nat) :
    monthStart month ≤ day ∧
        day < monthStart month + daysInMonth (civilYear year month) (civilMonth month) ↔
      day < yearLength year ∧ marchMonthOf day = month := by
  rw [marchMonthOf_eq_iff]
  rcases Nat.lt_or_eq_of_le (Nat.le_of_lt_succ hmonth) with hearly | rfl
  · have hyear := le_yearLength year
    have hbound : monthStart (month + 1) ≤ 337 := by
      unfold monthStart
      omega
    rw [monthStart_add_daysInMonth hearly]
    omega
  · have hyear := yearLength_le year
    have hlength := monthStart_add_february year
    have hend : monthStart 12 = 367 := rfl
    simp only [civilYear, civilMonth, Nat.reduceLT, if_false, Nat.reduceSub, Nat.reduceAdd, hlength,
      hend]
    omega

/-! ### Dates as days of years -/

/-- The year that begins in March and has a date in it. -/
def marchYear (d : Date) : Int :=
  if d.month ≤ 2 then d.year - 1 else d.year

/-- The month of a date, counted from March. -/
def marchMonth (d : Date) : Nat :=
  if d.month ≤ 2 then d.month + 9 else d.month - 3

/-- The day of a date in its year that begins in March. -/
def marchDay (d : Date) : Nat :=
  monthStart d.marchMonth + d.day - 1

/-- The date of a day of a year that begins in March. -/
def ofMarch (year : Int) (day : Nat) : Date :=
  ⟨civilYear year (marchMonthOf day), civilMonth (marchMonthOf day),
    day - monthStart (marchMonthOf day) + 1⟩

variable {year : Int} {day : Nat} {d d' : Date}

theorem dayNumber_eq (h : 1 ≤ d.day) :
    d.dayNumber = yearStart d.marchYear + d.marchDay - eraOffset := by
  simp only [dayNumber, marchDay, marchYear, marchMonth, yearStart]
  omega

/-- Months count from January and from March. -/
theorem IsValid.civil_eq (h : d.IsValid) : d.marchMonth < 12 ∧
    civilYear d.marchYear d.marchMonth = d.year ∧ civilMonth d.marchMonth = d.month := by
  obtain ⟨⟨hfirst, hlast⟩, -⟩ := h
  unfold civilYear civilMonth marchYear marchMonth
  by_cases hearly : d.month ≤ 2
  · simp only [hearly, if_true]
    rw [if_neg (by omega), if_neg (by omega)]
    omega
  · simp only [hearly, if_false]
    rw [if_pos (by omega), if_pos (by omega)]
    omega

/-- A date lies in its year and there in its month. -/
theorem IsValid.marchDay_spec (h : d.IsValid) :
    d.marchDay < yearLength d.marchYear ∧ marchMonthOf d.marchDay = d.marchMonth := by
  obtain ⟨hmonth, hcivilYear, hcivilMonth⟩ := h.civil_eq
  obtain ⟨-, hday, hdays⟩ := h
  rw [← mem_month_iff hmonth, hcivilYear, hcivilMonth]
  unfold marchDay
  omega

/-- A date is the one of its day. -/
theorem IsValid.ofMarch_eq (h : d.IsValid) : ofMarch d.marchYear d.marchDay = d := by
  obtain ⟨-, hmonth⟩ := h.marchDay_spec
  obtain ⟨-, hcivilYear, hcivilMonth⟩ := h.civil_eq
  obtain ⟨-, hday, -⟩ := h
  have hback : d.marchDay - monthStart d.marchMonth + 1 = d.day := by
    unfold marchDay
    omega
  rw [ofMarch, hmonth, hcivilYear, hcivilMonth, hback]

theorem marchMonthOf_spec (h : day < yearLength year) :
    marchMonthOf day < 12 ∧ monthStart (marchMonthOf day) ≤ day := by
  have hyear := yearLength_le year
  unfold marchMonthOf monthStart
  omega

theorem isValid_ofMarch (h : day < yearLength year) : (ofMarch year day).IsValid := by
  obtain ⟨hmonth, -⟩ := marchMonthOf_spec h
  obtain ⟨hstart, hend⟩ := (mem_month_iff hmonth year day).mpr ⟨h, rfl⟩
  refine ⟨?_, Nat.succ_pos _, ?_⟩
  · simp only [ofMarch, civilMonth]
    split <;> omega
  · simp only [ofMarch]
    omega

theorem ofMarch_fields (h : day < yearLength year) :
    (ofMarch year day).marchYear = year ∧ (ofMarch year day).marchDay = day := by
  obtain ⟨hmonth, hstart⟩ := marchMonthOf_spec h
  unfold ofMarch marchDay marchYear marchMonth civilYear civilMonth
  by_cases hearly : marchMonthOf day < 10
  · have hlate : ¬ marchMonthOf day + 3 ≤ 2 := by omega
    simp only [hearly, if_true, hlate, if_false, Nat.add_sub_cancel, true_and]
    omega
  · have hlate : marchMonthOf day - 9 ≤ 2 := by omega
    have hback : marchMonthOf day - 9 + 9 = marchMonthOf day := by omega
    simp only [hearly, if_false, hlate, if_true, hback]
    omega

/-! ### Days and dates -/

/-- A day is a day of a year. -/
theorem ofDayNumber_eq (n : Int) :
    ∃ year day, ofDayNumber n = ofMarch year day ∧ day < yearLength year ∧
      n + eraOffset = yearStart year + day := by
  have hera : (0 : Int) < daysPerEra := by decide
  have hnonneg := Int.emod_nonneg (n + eraOffset) hera.ne'
  have hlt := Int.emod_lt_of_pos (n + eraOffset) hera
  have hsplit := Int.ediv_mul_add_emod (n + eraOffset) daysPerEra
  -- the era stays apart, and the day of the era is a natural number
  generalize hcount : (n + eraOffset) / daysPerEra = era at hsplit
  obtain ⟨dayOfEra, hday⟩ := Int.eq_ofNat_of_zero_le hnonneg
  rw [hday] at hlt hsplit
  obtain ⟨hyear, hstart, hnext⟩ := yearOfEra_spec (Int.ofNat_lt.mp hlt)
  have hstart' : yearStart (yearOfEra dayOfEra) =
      (365 * yearOfEra dayOfEra + yearOfEra dayOfEra / 4 - yearOfEra dayOfEra / 100 : Nat) := by
    unfold yearStart
    omega
  refine ⟨era * 400 + yearOfEra dayOfEra,
    dayOfEra - (365 * yearOfEra dayOfEra + yearOfEra dayOfEra / 4 - yearOfEra dayOfEra / 100),
    ?_, ?_, ?_⟩
  · simp only [ofDayNumber, hcount, hday, Int.toNat_natCast]
    unfold ofMarch civilYear civilMonth marchMonthOf
    split <;> rfl
  · have hlength := yearStart_succ (era * 400 + yearOfEra dayOfEra)
    rw [Int.add_assoc, yearStart_add_eras, yearStart_add_eras] at hlength
    omega
  · rw [yearStart_add_eras]
    omega

theorem isValid_ofDayNumber (n : Int) : (ofDayNumber n).IsValid := by
  obtain ⟨year, day, heq, hday, -⟩ := ofDayNumber_eq n
  rw [heq]
  exact isValid_ofMarch hday

/-- The date of a day is on that day. -/
theorem dayNumber_ofDayNumber (n : Int) : (ofDayNumber n).dayNumber = n := by
  obtain ⟨year, day, heq, hday, hn⟩ := ofDayNumber_eq n
  obtain ⟨hyear, hmarch⟩ := ofMarch_fields hday
  rw [heq, dayNumber_eq (isValid_ofMarch hday).2.1, hyear, hmarch]
  omega

/-- Different dates are different days. -/
theorem dayNumber_inj (hd : d.IsValid) (hd' : d'.IsValid)
    (h : d.dayNumber = d'.dayNumber) : d = d' := by
  rw [dayNumber_eq hd.2.1, dayNumber_eq hd'.2.1] at h
  have hyear : d.marchYear = d'.marchYear := by
    have hlt := hd.marchDay_spec.1
    have hlt' := hd'.marchDay_spec.1
    have hnext := yearStart_succ d.marchYear
    have hnext' := yearStart_succ d'.marchYear
    -- both dates are the same day, which lies in one year only
    have hin : yearStart d.marchYear ≤ yearStart d.marchYear + d.marchDay := by omega
    exact year_unique hin (by omega) (by omega) (by omega)
  have hday : d.marchDay = d'.marchDay := by
    rw [hyear] at h
    omega
  rw [← hd.ofMarch_eq, ← hd'.ofMarch_eq, hyear, hday]

/-- The day of a date has that date. -/
theorem ofDayNumber_dayNumber (h : d.IsValid) : ofDayNumber d.dayNumber = d :=
  dayNumber_inj (isValid_ofDayNumber _) h (dayNumber_ofDayNumber _)

end ClusterWatch.Time.Date
