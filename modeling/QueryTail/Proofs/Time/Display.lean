import QueryTail.Proofs.Time.Written

/-!
# What is displayed is read back

A timestamp that is resolved is displayed in UTC, to the millisecond. The displayed text resolves to
the same instant, less what is below a millisecond (`resolve_display`), however the timestamp was
written. What makes this work are three facts of every instant that a timestamp resolves to
(`Instant.Regular`): it has less than a second of nanoseconds, unless it is in a leap second; leap
seconds end a minute; and its year can be resolved, although a zone may move it out of the years of
four digits.
-/

namespace QueryTail.Time

open Text

variable {instant : Instant}

/-! ### Dates of instants -/

namespace Instant

/-- An instant lies in a year or in a later one if it is not before the first day of that year. -/
theorem le_year_date_iff (instant : Instant) (year : Int) :
    year ≤ instant.date.year ↔ Date.dayNumber ⟨year, 1, 1⟩ ≤ instant.seconds / 86400 := by
  obtain ⟨real, number⟩ := Date.dayNumber_ofDayNumber (instant.seconds / 86400)
  rw [date, ← real.newYear_le_iff year, number]

/-- An instant lies in a year or in an earlier one if it is before the first day of the next. -/
theorem date_year_le_iff (instant : Instant) (year : Int) :
    instant.date.year ≤ year ↔ instant.seconds / 86400 < Date.dayNumber ⟨year + 1, 1, 1⟩ := by
  rw [← not_le, ← le_year_date_iff, not_le, Int.lt_add_one_iff]

/-- The time of day does not change the day, a leap second included. -/
theorem seconds_ofCivil {date : Date} {time : TimeOfDay} (real : time.Exists) :
    (ofCivil date time.hour time.minute time.second time.nanos).seconds / 86400 =
      date.dayNumber := by
  obtain ⟨hour, minute, second⟩ := real
  unfold ofCivil
  dsimp only
  split <;> omega

/-- A date that exists is the date of its times. -/
theorem date_ofCivil {date : Date} {time : TimeOfDay} (real : date.Exists) (real' : time.Exists) :
    (ofCivil date time.hour time.minute time.second time.nanos).date = date := by
  rw [Instant.date, seconds_ofCivil real', real.ofDayNumber_dayNumber]

/-- What an instant has that a timestamp resolves to. -/
structure Regular (instant : Instant) : Prop where
  nanos_lt : instant.nanos < 2000000000
  leap : 1000000000 ≤ instant.nanos → instant.seconds % 60 = 59
  near : Timestamp.minYear ≤ instant.date.year ∧ instant.date.year ≤ Timestamp.maxYear

/-! ### Reading back -/

/-- The fields in which an instant is displayed. -/
def written (instant : Instant) : Written :=
  let time := (instant.seconds % 86400).toNat
  { date := instant.date
    hour := time / 3600
    minute := time / 60 % 60
    second := time % 60 + instant.nanos / 1000000000
    fraction := digitsPadded 3 (instant.nanos % 1000000000 / 1000000) }

/-- An instant is displayed as its fields are written. -/
theorem display_eq (instant : Instant) : instant.display = instant.written.text '-' ' ' [] := by
  have fraction : Written.fractionText instant.written.fraction =
      '.' :: digitsPadded 3 (instant.nanos % 1000000000 / 1000000) :=
    if_neg (digitsPadded_ne_nil _ _)
  rw [Written.text, Written.dateText, Written.clockText, fraction]
  simp [display, written]

/-- Three digits of a fraction are milliseconds. -/
theorem fractionNanos_millis {millis : Nat} (small : millis < 1000) :
    Timestamp.fractionNanos (digitsPadded 3 millis) = millis * 1000000 := by
  have length : (digitsPadded 3 millis).length = 3 := length_digitsPadded (by decide) small
  have kept : (digitsPadded 3 millis).take 9 = digitsPadded 3 millis :=
    List.take_of_length_le (length.trans_le (by decide))
  rw [Timestamp.fractionNanos, kept, digitsValue_digitsPadded, length]

namespace Regular

/-- The fields of a regular instant are valid. -/
theorem valid_written (regular : instant.Regular) : instant.written.Valid := by
  have nanos := regular.nanos_lt
  have leap := regular.leap
  refine ⟨(Date.dayNumber_ofDayNumber _).1, ?_, ?_, ?_, allDigits_digitsPadded _ _⟩ <;>
    unfold written <;> dsimp only <;> omega

/-- The displayed fields are those of the instant. -/
theorem instant_written (regular : instant.Regular) :
    instant.written.instant = instant.truncateToMillis := by
  have nanos := regular.nanos_lt
  have leap := regular.leap
  have small : instant.nanos % 1000000000 / 1000000 < 1000 := by omega
  have millis := fractionNanos_millis small
  have day : instant.date.dayNumber = instant.seconds / 86400 :=
    (Date.dayNumber_ofDayNumber _).2
  obtain ⟨time, isTime⟩ : ∃ time : Nat, instant.seconds % 86400 = time :=
    Int.eq_ofNat_of_zero_le (Int.emod_nonneg _ (by decide))
  unfold Written.instant written ofCivil truncateToMillis
  dsimp only
  rw [millis, day, isTime, Int.toNat_natCast, mk.injEq]
  split <;> omega

/-- What is displayed of an instant resolves to the instant, to the millisecond. -/
theorem resolves_display (regular : instant.Regular) :
    Timestamp.resolve (String.ofList instant.display) = some instant.truncateToMillis := by
  have none : ∀ c ∈ ([] : List Char), isBlank c = true := fun c none => absurd none List.not_mem_nil
  have resolves := Written.resolve_text regular.valid_written regular.near (.inl rfl) (.inr rfl)
    none none
  rwa [List.nil_append, List.append_nil, ← display_eq, regular.instant_written] at resolves

end Regular

/-! ### What resolution gives -/

/-- The parts of an instant's second are those of a written time. -/
theorem regular_ofCivil {date : Date} {time : TimeOfDay} (real : date.Exists)
    (real' : time.Exists) (nanos : time.nanos < 1000000000)
    (near : Timestamp.minYear ≤ date.year ∧ date.year ≤ Timestamp.maxYear) :
    (ofCivil date time.hour time.minute time.second time.nanos).Regular := by
  refine ⟨?_, ?_, (date_ofCivil real real').symm ▸ near⟩
  · unfold ofCivil
    dsimp only
    split <;> omega
  · unfold ofCivil
    dsimp only
    split <;> omega

/-- A zone of whole minutes, less than a day from UTC, leaves all years of four digits within those
that can be resolved. -/
theorem Regular.shift (regular : instant.Regular)
    (fourDigits : 0 ≤ instant.date.year ∧ instant.date.year ≤ 9999) {distance : Int}
    (short : -86400 < distance ∧ distance < 86400) (minutes : distance % 60 = 0) :
    (instant.shift distance).Regular := by
  have leap := regular.leap
  refine ⟨regular.nanos_lt, fun leapSecond => ?_, ?_⟩
  · have last := leap leapSecond
    unfold Instant.shift
    dsimp only
    omega
  · have first := (le_year_date_iff instant 0).mp fourDigits.1
    have last := (date_year_le_iff instant 9999).mp fourDigits.2
    have firstYear : Date.dayNumber ⟨0, 1, 1⟩ = -719528 := by decide
    have lastYear : Date.dayNumber ⟨9999 + 1, 1, 1⟩ = 2932897 := by decide
    have minYear : Date.dayNumber ⟨Timestamp.minYear, 1, 1⟩ ≤ -719529 := by decide
    have afterMaxYear : 2932898 < Date.dayNumber ⟨Timestamp.maxYear + 1, 1, 1⟩ := by decide
    have days : instant.seconds / 86400 - 1 ≤ (instant.seconds + distance) / 86400 ∧
        (instant.seconds + distance) / 86400 ≤ instant.seconds / 86400 + 1 := by omega
    rw [le_year_date_iff, date_year_le_iff]
    unfold Instant.shift
    dsimp only
    omega

/-- Milliseconds within their bounds make a regular instant. -/
theorem regular_ofEpochMillis {millis : Nat} (least : Timestamp.minEpochMillis ≤ millis)
    (greatest : millis ≤ Timestamp.maxEpochMillis) : (ofEpochMillis millis).Regular := by
  unfold Timestamp.minEpochMillis at least
  unfold Timestamp.maxEpochMillis at greatest
  have minYear : Date.dayNumber ⟨Timestamp.minYear, 1, 1⟩ ≤ 0 := by decide
  have afterMaxYear : 1000000 < Date.dayNumber ⟨Timestamp.maxYear + 1, 1, 1⟩ := by decide
  refine ⟨?_, ?_, ?_⟩
  · unfold ofEpochMillis
    dsimp only
    omega
  · unfold ofEpochMillis
    dsimp only
    omega
  · rw [le_year_date_iff, date_year_le_iff]
    unfold ofEpochMillis
    dsimp only
    omega

end Instant

namespace Timestamp

variable {text rest : List Char} {nanos : Nat} {distance : Int}

/-- A fraction stays below a second. -/
theorem fractionNanos_lt (all : AllDigits text) : fractionNanos text < 1000000000 := by
  have kept : AllDigits (text.take 9) := fun c among => all c (List.mem_of_mem_take among)
  have short : (text.take 9).length ≤ 9 := List.length_take_le 9 text
  calc fractionNanos text
      = digitsValue (text.take 9) * 10 ^ (9 - (text.take 9).length) := rfl
    _ < 10 ^ (text.take 9).length * 10 ^ (9 - (text.take 9).length) :=
        Nat.mul_lt_mul_of_pos_right kept.digitsValue_lt (Nat.pow_pos (by decide))
    _ = 10 ^ 9 := by rw [← pow_add, Nat.add_sub_cancel' short]

/-- A fraction that was read stays below a second. -/
theorem nanos_lt_of_readFraction (reads : readFraction text = some (nanos, rest)) :
    nanos < 1000000000 := by
  unfold readFraction at reads
  split at reads
  · split at reads
    · cases reads
    · next found more _ span =>
      obtain ⟨rfl, -⟩ := Prod.mk.inj (Option.some.inj reads)
      obtain ⟨rfl, -⟩ := Prod.mk.inj span
      exact fractionNanos_lt fun c among => List.mem_takeWhile_imp among
  · obtain ⟨rfl, -⟩ := Prod.mk.inj (Option.some.inj reads)
    decide

/-- An offset is less than a day and a whole number of minutes. -/
theorem distance_of_readZone (reads : readZone text = some (distance, rest)) :
    (-86400 < distance ∧ distance < 86400) ∧ distance % 60 = 0 := by
  cases text with
  | nil => cases reads
  | cons c text =>
    rw [readZone] at reads
    split at reads
    · obtain ⟨rfl, -⟩ := Prod.mk.inj (Option.some.inj reads)
      decide
    · obtain ⟨-, reads⟩ := Option.ite_none_right_eq_some.mp reads
      obtain ⟨⟨hours, _⟩, -, reads⟩ := Option.bind_eq_some_iff.mp reads
      obtain ⟨_, -, reads⟩ := Option.bind_eq_some_iff.mp reads
      obtain ⟨⟨minutes, _⟩, -, reads⟩ := Option.bind_eq_some_iff.mp reads
      obtain ⟨⟨hours_le, minutes_le⟩, reads⟩ := Option.ite_none_right_eq_some.mp reads
      obtain ⟨rfl, -⟩ := Prod.mk.inj (Option.some.inj reads)
      split <;> omega

variable {date : Date} {time : TimeOfDay} {raw : List Char}

/-- A date and a time make a regular instant on that date, if they make one at all. -/
theorem regular_of_instantOf (nanos : time.nanos < 1000000000)
    (resolves : instantOf date time = some instant) :
    instant.Regular ∧ instant.date = date := by
  obtain ⟨⟨real, real', near⟩, same⟩ := Option.ite_none_right_eq_some.mp resolves
  obtain rfl := Option.some.inj same
  exact ⟨Instant.regular_ofCivil real real' nanos near, Instant.date_ofCivil real real'⟩

/-- A timestamp with an offset resolves to a regular instant. -/
theorem regular_of_resolveZoned (resolves : resolveZoned raw = some instant) :
    instant.Regular := by
  unfold resolveZoned at resolves
  obtain ⟨⟨year, _⟩, readsYear, resolves⟩ := Option.bind_eq_some_iff.mp resolves
  obtain ⟨_, -, resolves⟩ := Option.bind_eq_some_iff.mp resolves
  obtain ⟨⟨month, _⟩, -, resolves⟩ := Option.bind_eq_some_iff.mp resolves
  obtain ⟨_, -, resolves⟩ := Option.bind_eq_some_iff.mp resolves
  obtain ⟨⟨day, _⟩, -, resolves⟩ := Option.bind_eq_some_iff.mp resolves
  obtain ⟨_, -, resolves⟩ := Option.bind_eq_some_iff.mp resolves
  obtain ⟨⟨hour, _⟩, -, resolves⟩ := Option.bind_eq_some_iff.mp resolves
  obtain ⟨_, -, resolves⟩ := Option.bind_eq_some_iff.mp resolves
  obtain ⟨⟨minute, _⟩, -, resolves⟩ := Option.bind_eq_some_iff.mp resolves
  obtain ⟨_, -, resolves⟩ := Option.bind_eq_some_iff.mp resolves
  obtain ⟨⟨second, _⟩, -, resolves⟩ := Option.bind_eq_some_iff.mp resolves
  obtain ⟨⟨nanos, _⟩, readsNanos, resolves⟩ := Option.bind_eq_some_iff.mp resolves
  obtain ⟨⟨distance, _⟩, readsZone, resolves⟩ := Option.bind_eq_some_iff.mp resolves
  obtain ⟨-, resolves⟩ := Option.ite_none_right_eq_some.mp resolves
  obtain ⟨unshifted, resolved, same⟩ := Option.bind_eq_some_iff.mp resolves
  obtain rfl := Option.some.inj same
  obtain ⟨regular, sameDate⟩ := regular_of_instantOf (nanos_lt_of_readFraction readsNanos)
    resolved
  obtain ⟨short, minutes⟩ := distance_of_readZone readsZone
  have year_lt : year < 10 ^ 4 := readFixed_lt readsYear
  refine regular.shift (sameDate ▸ ?_) (by omega) (by omega)
  dsimp only
  omega

/-- The fraction of seconds that were read stays below a second. -/
theorem nanos_lt_of_readSeconds {second : Nat}
    (reads : readSeconds text = some ((second, nanos), rest)) : nanos < 1000000000 := by
  unfold readSeconds at reads
  split at reads
  · obtain ⟨_, -, reads⟩ := Option.bind_eq_some_iff.mp reads
    obtain ⟨_, readsNanos, reads⟩ := Option.bind_eq_some_iff.mp reads
    cases reads
    exact nanos_lt_of_readFraction readsNanos
  · cases reads
    decide

/-- A timestamp without an offset resolves to a regular instant. -/
theorem regular_of_resolveNaive (resolves : resolveNaive raw = some instant) :
    instant.Regular := by
  unfold resolveNaive at resolves
  obtain ⟨⟨year, _⟩, -, resolves⟩ := Option.bind_eq_some_iff.mp resolves
  obtain ⟨_, -, resolves⟩ := Option.bind_eq_some_iff.mp resolves
  obtain ⟨⟨month, _⟩, -, resolves⟩ := Option.bind_eq_some_iff.mp resolves
  obtain ⟨_, -, resolves⟩ := Option.bind_eq_some_iff.mp resolves
  obtain ⟨⟨day, _⟩, -, resolves⟩ := Option.bind_eq_some_iff.mp resolves
  obtain ⟨⟨hour, _⟩, -, resolves⟩ := Option.bind_eq_some_iff.mp resolves
  obtain ⟨_, -, resolves⟩ := Option.bind_eq_some_iff.mp resolves
  obtain ⟨⟨minute, _⟩, -, resolves⟩ := Option.bind_eq_some_iff.mp resolves
  obtain ⟨⟨⟨second, nanos⟩, _⟩, readsSeconds, resolves⟩ := Option.bind_eq_some_iff.mp resolves
  obtain ⟨-, resolves⟩ := Option.ite_none_right_eq_some.mp resolves
  exact (regular_of_instantOf (nanos_lt_of_readSeconds readsSeconds) resolves).1

/-- Milliseconds resolve to a regular instant. -/
theorem regular_of_resolveEpochMillis (resolves : resolveEpochMillis raw = some instant) :
    instant.Regular := by
  obtain ⟨⟨-, least, greatest⟩, same⟩ := Option.ite_none_right_eq_some.mp resolves
  obtain rfl := Option.some.inj same
  exact Instant.regular_ofEpochMillis least greatest

/-- In every spelling a timestamp resolves to an instant that can be displayed and read back. -/
theorem regular_of_resolve {raw : String} (resolves : resolve raw = some instant) :
    instant.Regular := by
  rcases (Option.orElse_eq_some _ _ _).mp resolves with zoned | ⟨-, resolves⟩
  · exact regular_of_resolveZoned zoned
  rcases (Option.orElse_eq_some _ _ _).mp resolves with naive | ⟨-, millis⟩
  · exact regular_of_resolveNaive naive
  · exact regular_of_resolveEpochMillis millis

/-- What a timestamp resolves to is displayed as a text that resolves to it again, less what is
below a millisecond. -/
theorem resolve_display (raw : String) (instant : Instant)
    (resolves : resolve raw = some instant) :
    resolve (String.ofList instant.display) = some instant.truncateToMillis :=
  (regular_of_resolve resolves).resolves_display

/-- A leap second on the first day of the year zero, in a zone so far east that it is still the year
before in UTC. -/
theorem resolve_display_leap_second :
    resolve "0000-01-01T00:00:60.1239+23:59" = some ⟨-62167305481, 1123900000⟩ ∧
      String.ofList (Instant.display ⟨-62167305481, 1123900000⟩) = "-0001-12-31 00:01:60.123" ∧
      resolve (String.ofList (Instant.display ⟨-62167305481, 1123900000⟩)) =
        some ⟨-62167305481, 1123000000⟩ :=
  ⟨by decide +kernel, by decide +kernel,
    resolve_display "0000-01-01T00:00:60.1239+23:59" _ (by decide +kernel)⟩

end Timestamp

end QueryTail.Time
