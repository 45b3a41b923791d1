/-!
# The civil calendar

Dates of the proleptic Gregorian calendar, with a year zero and negative years before it, and
their numbering by days counted from 1970-01-01. The numbering works on years that begin in
March, so that the leap day is the last day of its year and no case split on leap years is needed.
-/

namespace QueryTail.Time

/-- A date by year, month (1 to 12) and day of the month. Nothing here forces the date to exist;
`Date.Exists` says when it does. -/
structure Date where
  year : Int
  month : Nat
  day : Nat
  deriving DecidableEq, Repr

/-- A leap year is divisible by four, and by four hundred if it is divisible by a hundred. -/
def isLeapYear (year : Int) : Bool :=
  year % 4 == 0 && (year % 100 != 0 || year % 400 == 0)

/-- The number of days in a month; a number that names no month has none. -/
def monthLength (year : Int) (month : Nat) : Nat :=
  if month = 2 then
    if isLeapYear year then 29 else 28
  else if month = 4 ∨ month = 6 ∨ month = 9 ∨ month = 11 then 30
  else if 1 ≤ month ∧ month ≤ 12 then 31
  else 0

namespace Date

/-- The month is one of the twelve and the day is one of its days. -/
def Exists (date : Date) : Prop :=
  1 ≤ date.day ∧ date.day ≤ monthLength date.year date.month

instance (date : Date) : Decidable date.Exists :=
  inferInstanceAs (Decidable (_ ∧ _))

/-- The number of days from 1970-01-01 to a date; negative before it. -/
def dayNumber (date : Date) : Int :=
  let year := if date.month ≤ 2 then date.year - 1 else date.year
  let era := year / 400
  let yearOfEra := year % 400
  let month : Int := (date.month + 9) % 12
  let dayOfYear := (153 * month + 2) / 5 + date.day - 1
  let dayOfEra := yearOfEra * 365 + yearOfEra / 4 - yearOfEra / 100 + dayOfYear
  era * 146097 + dayOfEra - 719468

/-- The date that has a given day number. -/
def ofDayNumber (number : Int) : Date :=
  let shifted := number + 719468
  let era := shifted / 146097
  let dayOfEra := shifted % 146097
  let yearOfEra := (dayOfEra - dayOfEra / 1460 + dayOfEra / 36524 - dayOfEra / 146096) / 365
  let dayOfYear := dayOfEra - (365 * yearOfEra + yearOfEra / 4 - yearOfEra / 100)
  let month := (5 * dayOfYear + 2) / 153
  let day := dayOfYear - (153 * month + 2) / 5 + 1
  let civilMonth := if month < 10 then month + 3 else month - 9
  let year := yearOfEra + era * 400
  { year := if civilMonth ≤ 2 then year + 1 else year
    month := civilMonth.toNat
    day := day.toNat }

end Date

end QueryTail.Time
