import Mathlib.Order.SuccPred.IntervalSucc
import Mathlib.Tactic.IntervalCases
import QueryTail.Time.Calendar

/-!
# Days and dates

The numbering of days agrees with the calendar. Every month begins as many days after the month
before it as that month has days (`monthStart_add_one`), so that later dates have greater numbers
(`dayNumber_lt_iff`). Every number is that of a date (`dayNumber_ofDayNumber`), and of one date only
(`ofDayNumber_dayNumber`).

The year zero and the years before it are no exception, and no year is too far away.
-/

namespace QueryTail.Time

variable {year day : Int} {date first second : Date}

/-- Leap years are the years that four divides, except the centuries that 400 does not divide. -/
theorem isLeapYear_iff :
    isLeapYear year = true ↔ year % 4 = 0 ∧ (year % 100 ≠ 0 ∨ year % 400 = 0) := by
  simp [isLeapYear]

/-- Leap years repeat with every era of 400 years. -/
theorem isLeapYear_add_eras (year eras : Int) :
    isLeapYear (year + eras * 400) = isLeapYear year := by
  rw [Bool.eq_iff_iff, isLeapYear_iff, isLeapYear_iff]
  omega

/-- No month has more than 31 days. -/
theorem monthLength_le (year : Int) (month : Nat) : monthLength year month ≤ 31 := by
  unfold monthLength
  grind

namespace Date

/-- The month of a date that exists is one of twelve. -/
theorem Exists.month_bounds (real : date.Exists) : 1 ≤ date.month ∧ date.month ≤ 12 := by
  have length := real.1.trans real.2
  unfold monthLength at length
  split at length
  · omega
  split at length
  · omega
  split at length
  · assumption
  · omega

/-- The year to which a date belongs when years begin in March. -/
def marchYear (date : Date) : Int :=
  if date.month ≤ 2 then date.year - 1 else date.year

/-- The number of a day counts the days of whole years, of whole months and of the month, the years
beginning in March. -/
theorem dayNumber_eq (date : Date) :
    date.dayNumber = date.marchYear * 365 + date.marchYear / 4 - date.marchYear / 100 +
      date.marchYear / 400 + (153 * ((date.month + 9) % 12) + 2) / 5 + date.day - 719469 := by
  unfold dayNumber marchYear
  dsimp only
  omega

example : dayNumber ⟨1970, 1, 1⟩ = 0 := by decide

/-! ### Months one after the other -/

/-- Within a year, the first of a month comes when the month before it is over. -/
theorem dayNumber_next_month (year : Int) {month : Nat} (known : 1 ≤ month ∧ month ≤ 11) :
    dayNumber ⟨year, month + 1, 1⟩ = dayNumber ⟨year, month, 1⟩ + monthLength year month := by
  obtain ⟨first, last⟩ := known
  have leap := @isLeapYear_iff year
  rw [dayNumber_eq, dayNumber_eq]
  unfold marchYear monthLength
  interval_cases month <;> simp <;> grind

/-- The first of January comes when December is over. -/
theorem dayNumber_next_year (year : Int) :
    dayNumber ⟨year + 1, 1, 1⟩ = dayNumber ⟨year, 12, 1⟩ + monthLength year 12 := by
  rw [dayNumber_eq, dayNumber_eq]
  simp [marchYear, monthLength]
  omega

/-- How many months a date is behind January of the year zero. -/
def monthIndex (date : Date) : Int :=
  12 * date.year + date.month - 1

/-- The number of the first day of a month, the months counted from January of the year zero. -/
def monthStart (index : Int) : Int :=
  dayNumber ⟨index / 12, (index % 12).toNat + 1, 1⟩

/-- A month begins when the month before it is over. -/
theorem monthStart_add_one (index : Int) :
    monthStart (index + 1) =
      monthStart index + monthLength (index / 12) ((index % 12).toNat + 1) := by
  unfold monthStart
  rcases lt_or_ge (index % 12) 11 with within | last
  · have sameYear : (index + 1) / 12 = index / 12 := by omega
    have nextMonth : ((index + 1) % 12).toNat = (index % 12).toNat + 1 := by omega
    rw [sameYear, nextMonth, dayNumber_next_month _ (by omega)]
  · have nextYear : (index + 1) / 12 = index / 12 + 1 := by omega
    have january : ((index + 1) % 12).toNat = 0 := by omega
    have december : (index % 12).toNat = 11 := by omega
    rw [nextYear, january, december, dayNumber_next_year]

/-- No month begins before an earlier one. -/
theorem monthStart_le {index later : Int} (before : index ≤ later) :
    monthStart index ≤ monthStart later := by
  refine monotone_int_of_le_succ (fun index => ?_) before
  rw [monthStart_add_one]
  omega

/-- The months are counted as they are named. -/
theorem monthIndex_parts (known : 1 ≤ date.month ∧ date.month ≤ 12) :
    date.monthIndex / 12 = date.year ∧ (date.monthIndex % 12).toNat + 1 = date.month := by
  unfold monthIndex
  omega

/-- A month starts on its first day. -/
theorem monthStart_monthIndex (known : 1 ≤ date.month ∧ date.month ≤ 12) :
    monthStart date.monthIndex = dayNumber ⟨date.year, date.month, 1⟩ := by
  obtain ⟨sameYear, sameMonth⟩ := monthIndex_parts known
  rw [monthStart, sameYear, sameMonth]

namespace Exists

/-- A date that exists is as many days after the start of its month as it says. -/
theorem dayNumber_eq_monthStart (real : date.Exists) :
    date.dayNumber = monthStart date.monthIndex + date.day - 1 := by
  rw [monthStart_monthIndex real.month_bounds, dayNumber_eq, dayNumber_eq]
  simp only [marchYear]
  omega

/-- A date is over before the next month starts. -/
theorem dayNumber_lt (real : date.Exists) :
    date.dayNumber < monthStart (date.monthIndex + 1) := by
  have within := real.2
  obtain ⟨sameYear, sameMonth⟩ := monthIndex_parts real.month_bounds
  rw [real.dayNumber_eq_monthStart, monthStart_add_one, sameYear, sameMonth]
  omega

/-- A date in an earlier month is an earlier day. -/
theorem dayNumber_lt_of_monthIndex_lt (real : first.Exists) (real' : second.Exists)
    (earlier : first.monthIndex < second.monthIndex) : first.dayNumber < second.dayNumber := by
  have started := real'.1
  calc first.dayNumber
      < monthStart (first.monthIndex + 1) := real.dayNumber_lt
    _ ≤ monthStart second.monthIndex :=
        monthStart_le (Int.add_one_le_of_lt earlier)
    _ ≤ second.dayNumber := by rw [real'.dayNumber_eq_monthStart]; omega

/-- Dates are ordered by their months, and then by their days. -/
theorem dayNumber_lt_iff_monthIndex (real : first.Exists) (real' : second.Exists) :
    first.dayNumber < second.dayNumber ↔ first.monthIndex < second.monthIndex ∨
      first.monthIndex = second.monthIndex ∧ first.day < second.day := by
  rcases lt_trichotomy first.monthIndex second.monthIndex with earlier | same | later
  · exact iff_of_true (real.dayNumber_lt_of_monthIndex_lt real' earlier) (Or.inl earlier)
  · rw [real.dayNumber_eq_monthStart, real'.dayNumber_eq_monthStart, same]
    omega
  · have after := real'.dayNumber_lt_of_monthIndex_lt real later
    omega

/-- Of two dates the later one has the greater number. -/
theorem dayNumber_lt_iff (real : first.Exists) (real' : second.Exists) :
    first.dayNumber < second.dayNumber ↔ first.year < second.year ∨
      first.year = second.year ∧ (first.month < second.month ∨
        first.month = second.month ∧ first.day < second.day) := by
  have bounds := real.month_bounds
  have bounds' := real'.month_bounds
  rw [real.dayNumber_lt_iff_monthIndex real']
  unfold monthIndex
  omega

/-- Different dates have different numbers. -/
theorem eq_of_dayNumber_eq (real : first.Exists) (real' : second.Exists)
    (same : first.dayNumber = second.dayNumber) : first = second := by
  have notBefore := mt (real.dayNumber_lt_iff real').mpr (Int.not_lt.mpr same.ge)
  have notAfter := mt (real'.dayNumber_lt_iff real).mpr (Int.not_lt.mpr same.le)
  obtain ⟨year, month, day⟩ := first
  obtain ⟨year', month', day'⟩ := second
  simp only [mk.injEq]
  dsimp only at notBefore notAfter
  omega

end Exists

/-! ### The date of a number -/

/-- The year of its era in which a day of the era lies, eras and years beginning in March. Of 365
days in a row, one more is a leap day every 1460 days, but not every 36524 days. -/
def yearOfEra (day : Int) : Int :=
  (day - day / 1460 + day / 36524 - day / 146096) / 365

/-- How many days of an era are over when a year begins. -/
def yearStart (year : Int) : Int :=
  365 * year + year / 4 - year / 100

/-- A day of an era lies in a century, in a group of four years, in a year and on a day of the
year. The leap day is the last day of a group, and all centuries but the last are without the last
of theirs. -/
theorem exists_parts (early : 0 ≤ day ∧ day < 146097) :
    ∃ century group year rest : Int, (0 ≤ century ∧ century ≤ 3) ∧ (0 ≤ group ∧ group ≤ 24) ∧
      (0 ≤ year ∧ year ≤ 3) ∧ 0 ≤ rest ∧
      (rest ≤ 364 ∨ rest = 365 ∧ year = 3 ∧ (group ≤ 23 ∨ century = 3)) ∧
      day = 36524 * century + 1461 * group + 365 * year + rest := by
  rcases eq_or_ne day 146096 with rfl | other
  · exact ⟨3, 24, 3, 365, by decide, by decide, by decide, by decide, by decide, by decide⟩
  obtain ⟨century, isCentury⟩ : ∃ century, day / 36524 = century := ⟨_, rfl⟩
  obtain ⟨group, isGroup⟩ : ∃ group, day % 36524 / 1461 = group := ⟨_, rfl⟩
  obtain ⟨place, isPlace⟩ : ∃ place, day % 36524 % 1461 = place := ⟨_, rfl⟩
  refine ⟨century, group, min 3 (place / 365), place - 365 * min 3 (place / 365), ?_⟩
  omega

/-- The year of an era is found from the parts of a day: centuries, groups of four years, years and
the rest. -/
theorem yearOfEra_parts {century group year rest : Int} (isCentury : 0 ≤ century ∧ century ≤ 3)
    (isGroup : 0 ≤ group ∧ group ≤ 24) (isYear : 0 ≤ year ∧ year ≤ 3) (least : 0 ≤ rest)
    (most : rest ≤ 364 ∨ rest = 365 ∧ year = 3 ∧ (group ≤ 23 ∨ century = 3))
    (parts : day = 36524 * century + 1461 * group + 365 * year + rest) :
    yearOfEra day = 100 * century + 4 * group + year := by
  unfold yearOfEra
  rcases eq_or_ne day 146096 with rfl | other
  · omega
  have inCentury : day / 36524 = century := by omega
  have notLast : day / 146096 = 0 := by omega
  rw [inCentury, notLast]
  -- With century and year known all that is left is linear in the group and the rest.
  have centuries : century = 0 ∨ century = 1 ∨ century = 2 ∨ century = 3 := by omega
  have years : year = 0 ∨ year = 1 ∨ year = 2 ∨ year = 3 := by omega
  rcases centuries with rfl | rfl | rfl | rfl <;> rcases years with rfl | rfl | rfl | rfl <;> omega

/-- A day of an era lies in the year that is computed for it, which has a leap day at its end if the
next civil year is a leap year. -/
theorem yearOfEra_spec (early : 0 ≤ day ∧ day < 146097) :
    (0 ≤ yearOfEra day ∧ yearOfEra day < 400) ∧ yearStart (yearOfEra day) ≤ day ∧
      (day - yearStart (yearOfEra day) ≤ 364 ∨
        day - yearStart (yearOfEra day) = 365 ∧ isLeapYear (yearOfEra day + 1) = true) := by
  obtain ⟨century, group, year, rest, isCentury, isGroup, isYear, least, most, parts⟩ :=
    exists_parts early
  have value : yearOfEra day = 100 * century + 4 * group + year :=
    yearOfEra_parts isCentury isGroup isYear least most parts
  have start : yearStart (yearOfEra day) + rest = day := by
    rw [value, parts]
    unfold yearStart
    omega
  rw [isLeapYear_iff]
  omega

/-- The date on a day of a year that begins in March, the days counted from zero. -/
def ofMarch (year day : Int) : Date :=
  let month := (5 * day + 2) / 153
  let civilMonth := if month < 10 then month + 3 else month - 9
  ⟨if civilMonth ≤ 2 then year + 1 else year, civilMonth.toNat,
    (day - (153 * month + 2) / 5 + 1).toNat⟩

/-- A day of a year is on a date that exists. -/
theorem exists_ofMarch (least : 0 ≤ day)
    (most : day ≤ 364 ∨ day = 365 ∧ isLeapYear (year + 1) = true) : (ofMarch year day).Exists := by
  obtain ⟨month, isMonth⟩ : ∃ month, (5 * day + 2) / 153 = month := ⟨_, rfl⟩
  have known : 0 ≤ month ∧ month < 12 := by omega
  obtain ⟨first, last⟩ := known
  unfold Exists ofMarch monthLength
  rw [isMonth]
  interval_cases month <;> simp <;> grind

/-- The number of a date on a day of a year counts the days of the years before and the day. -/
theorem dayNumber_ofMarch (least : 0 ≤ day) (most : day ≤ 365) :
    (ofMarch year day).dayNumber =
      year * 365 + year / 4 - year / 100 + year / 400 + day - 719468 := by
  obtain ⟨month, isMonth⟩ : ∃ month, (5 * day + 2) / 153 = month := ⟨_, rfl⟩
  have known : 0 ≤ month ∧ month < 12 := by omega
  obtain ⟨first, last⟩ := known
  rw [dayNumber_eq]
  unfold marchYear ofMarch
  rw [isMonth]
  interval_cases month <;> simp <;> omega

/-- The date of a number is found from its era and its day in that era. -/
theorem ofDayNumber_eq {number era : Int} (early : 0 ≤ day ∧ day < 146097)
    (parts : number + 719468 = era * 146097 + day) :
    ofDayNumber number =
      ofMarch (yearOfEra day + era * 400) (day - yearStart (yearOfEra day)) := by
  have isEra : (number + 719468) / 146097 = era := by omega
  have isDay : (number + 719468) % 146097 = day := by omega
  rw [← isEra, ← isDay]
  rfl

/-- Every number is that of a date. -/
theorem dayNumber_ofDayNumber (number : Int) :
    (ofDayNumber number).Exists ∧ (ofDayNumber number).dayNumber = number := by
  obtain ⟨era, isEra⟩ : ∃ era, (number + 719468) / 146097 = era := ⟨_, rfl⟩
  obtain ⟨day, isDay⟩ : ∃ day, (number + 719468) % 146097 = day := ⟨_, rfl⟩
  have early : 0 ≤ day ∧ day < 146097 := by omega
  have parts : number + 719468 = era * 146097 + day := by omega
  obtain ⟨⟨least, most⟩, started, within⟩ := yearOfEra_spec early
  rw [ofDayNumber_eq early parts]
  constructor
  · refine exists_ofMarch (by omega) ?_
    rwa [add_right_comm, isLeapYear_add_eras]
  · rw [dayNumber_ofMarch (by omega) (by omega)]
    unfold yearStart at started within ⊢
    omega

example : ofDayNumber 11016 = ⟨2000, 2, 29⟩ := by decide

example : ofDayNumber (-719529) = ⟨-1, 12, 31⟩ := by decide

/-- A date lies behind the first day of a year if its own year is not an earlier one. -/
theorem Exists.newYear_le_iff (real : date.Exists) (year : Int) :
    dayNumber ⟨year, 1, 1⟩ ≤ date.dayNumber ↔ year ≤ date.year := by
  have newYear : Exists ⟨year, 1, 1⟩ := ⟨Nat.le_refl 1, (by decide : 1 ≤ 31)⟩
  have first := real.month_bounds.1
  have started := real.1
  rw [← not_lt, real.dayNumber_lt_iff newYear]
  dsimp only
  omega

/-- Every date that exists is found by its number. -/
theorem Exists.ofDayNumber_dayNumber (real : date.Exists) : ofDayNumber date.dayNumber = date := by
  obtain ⟨found, same⟩ := dayNumber_ofDayNumber date.dayNumber
  exact found.eq_of_dayNumber_eq real same

end Date

end QueryTail.Time
