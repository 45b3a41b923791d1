import QueryTail.Text.Digits
import QueryTail.Time.Calendar

/-!
# Instants

A point in time on the UTC scale, to the nanosecond. A leap second shares its second with the
last ordinary second of the minute and has a nanosecond count of at least 10^9, so that
comparing first seconds and then nanoseconds orders it after that second and before the next.
-/

namespace QueryTail.Time

/-- Whole seconds since 1970-01-01T00:00:00 UTC, rounded down, and nanoseconds after them. -/
structure Instant where
  seconds : Int
  nanos : Nat
  deriving DecidableEq, Repr

namespace Instant

/-- One instant lies before another. -/
def Before (first second : Instant) : Prop :=
  first.seconds < second.seconds ∨
    (first.seconds = second.seconds ∧ first.nanos < second.nanos)

instance : LT Instant := ⟨Before⟩

instance (first second : Instant) : Decidable (first < second) :=
  inferInstanceAs (Decidable (_ ∨ _))

/-- Instants are ordered by their seconds, and then by their nanoseconds. -/
theorem lt_def {first second : Instant} :
    first < second ↔ first.seconds < second.seconds ∨
      (first.seconds = second.seconds ∧ first.nanos < second.nanos) :=
  Iff.rfl

/-- No instant comes before itself. -/
theorem lt_irrefl (instant : Instant) : ¬instant < instant := by
  rw [lt_def]; omega

/-- Two instants of which neither lies before the other are equal. -/
theorem eq_of_not_lt {first second : Instant} (left : ¬first < second)
    (right : ¬second < first) : first = second := by
  obtain ⟨firstSeconds, firstNanos⟩ := first
  obtain ⟨secondSeconds, secondNanos⟩ := second
  simp only [lt_def, not_or, not_and] at left right
  simp only [mk.injEq]
  omega

/-- The instant of a date and time of day in UTC. The sixtieth second of a minute is the leap
second. -/
def ofCivil (date : Date) (hour minute second nanos : Nat) : Instant :=
  let leap := second = 60
  { seconds := date.dayNumber * 86400 + hour * 3600 + minute * 60 + (if leap then 59 else second)
    nanos := if leap then 1000000000 + nanos else nanos }

/-- The instant that many milliseconds after the start of 1970. -/
def ofEpochMillis (millis : Nat) : Instant :=
  { seconds := (millis / 1000 : Nat), nanos := millis % 1000 * 1000000 }

/-- Move an instant by whole seconds; a leap second stays one. -/
def shift (instant : Instant) (seconds : Int) : Instant :=
  { instant with seconds := instant.seconds + seconds }

/-- The instant without the part of it below a millisecond. -/
def truncateToMillis (instant : Instant) : Instant :=
  { instant with nanos := instant.nanos / 1000000 * 1000000 }

/-- The date of an instant in UTC. -/
def date (instant : Instant) : Date :=
  Date.ofDayNumber (instant.seconds / 86400)

/-- The written form of a year: four digits, and outside 0 to 9999 a sign and at least four. -/
def yearText (year : Int) : List Char :=
  if 0 ≤ year ∧ year ≤ 9999 then Text.digitsPadded 4 year.toNat
  else (if year < 0 then '-' else '+') :: Text.digitsPadded 4 year.natAbs

/-- The written form of an instant: `YYYY-MM-DD hh:mm:ss.mmm` in UTC, milliseconds cut off, a leap
second written as second sixty. -/
def display (instant : Instant) : List Char :=
  let date := instant.date
  let time := (instant.seconds % 86400).toNat
  let second := time % 60 + instant.nanos / 1000000000
  yearText date.year ++ '-' :: Text.digitsPadded 2 date.month ++
    '-' :: Text.digitsPadded 2 date.day ++
    ' ' :: Text.digitsPadded 2 (time / 3600) ++
    ':' :: Text.digitsPadded 2 (time / 60 % 60) ++
    ':' :: Text.digitsPadded 2 second ++
    '.' :: Text.digitsPadded 3 (instant.nanos % 1000000000 / 1000000)

end Instant

end QueryTail.Time
