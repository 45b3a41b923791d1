import Mathlib.Algebra.Order.Field.Rat
import Mathlib.Data.Prod.Lex
import Mathlib.Tactic.FieldSimp
import QueryTail.Proofs.Time.Written

/-!
# Spellings

A date and time has many spellings. None of them changes its meaning: without a zone, or with the
zone of UTC, they all resolve to one instant, and a written offset moves it by as much. The instants
are ordered as the fields are, compared from the year down to the fraction (`resolve_spelling`).
-/

namespace QueryTail.Time.Written

open Text

variable {written first second : Written}

/-- A date and a time that exist, in a year of four digits. There is no leap second, and no more
than nine digits of a fraction. -/
structure Ordinary (written : Written) : Prop extends written.Valid where
  fourDigits : 0 ≤ written.date.year ∧ written.date.year ≤ 9999
  noLeap : written.second ≤ 59
  fraction_length : written.fraction.length ≤ 9

/-- The spellings of a date and time taken as UTC. -/
def spellings (written : Written) : List (List Char) :=
  [written.text '-' 'T' ['Z'], written.text '-' 'T' [], written.text '-' ' ' [],
    written.text '/' 'T' [], written.text '/' ' ' []]

/-- A zone by its distance from UTC, behind the sign of its direction. -/
def zoneText (sign : Char) (hours minutes : Nat) : List Char :=
  sign :: (digitsPadded 2 hours ++ ':' :: digitsPadded 2 minutes)

/-- How far a zone lies ahead of UTC, in seconds. -/
def zoneDistance (sign : Char) (hours minutes : Nat) : Int :=
  if sign = '+' then hours * 3600 + minutes * 60 else -(hours * 3600 + minutes * 60)

/-- The fraction of a second that its digits denote. -/
def fractionValue (fraction : List Char) : ℚ :=
  (digitsValue fraction : ℚ) / 10 ^ fraction.length

/-- The fields of a date and time, to be compared one after the other. -/
def fields (written : Written) : ℤ ×ₗ ℕ ×ₗ ℕ ×ₗ ℕ ×ₗ ℕ ×ₗ ℕ ×ₗ ℚ :=
  toLex (written.date.year, toLex (written.date.month, toLex (written.date.day,
    toLex (written.hour, toLex (written.minute, toLex (written.second,
      fractionValue written.fraction))))))

/-! ### Resolution of the spellings -/

/-- The first characters of a zone: no fraction goes on with them. -/
theorem endsFraction_cons {c : Char} (zone : c = 'Z' ∨ c = '+' ∨ c = '-') (rest : List Char) :
    EndsFraction (c :: rest) := by
  intro d first
  obtain rfl : c = d := Option.some.inj first
  rcases zone with rfl | rfl | rfl <;> decide

/-- There are no blanks in an offset. -/
theorem visible_zoneText {sign : Char} (known : sign = '+' ∨ sign = '-') (hours minutes : Nat) :
    ∀ c ∈ zoneText sign hours minutes, isBlank c = false := by
  have field : sign ∈ ['-', '+', ':', '.'] := by
    rcases known with rfl | rfl <;> decide
  have inFields : InFields (zoneText sign hours minutes) :=
    List.forall_mem_cons.mpr ⟨.inr field,
      inFields_before_colon 2 hours (inFields_digitsPadded 2 minutes)⟩
  exact fun c among => (inFields.plain c among).2.2

/-- An offset is read back from its text. -/
theorem readZone_zoneText {sign : Char} (known : sign = '+' ∨ sign = '-') {hours minutes : Nat}
    (hours_le : hours ≤ 23) (minutes_le : minutes ≤ 59) :
    Timestamp.readZone (zoneText sign hours minutes) =
      some (zoneDistance sign hours minutes, []) := by
  have noLetter : ¬(sign = 'Z' ∨ sign = 'z') := by
    rcases known with rfl | rfl <;> decide
  have isSign : sign = '+' ∨ sign = '-' ∨ sign = '−' := known.imp_right .inl
  have two : 0 < 2 := by decide
  have hour := readFixed_digitsPadded two (n := hours) (by omega)
  have minute := readFixed_digitsPadded two (n := minutes) (by omega) []
  rw [List.append_nil] at minute
  rw [zoneText, Timestamp.readZone, if_neg noLetter, if_pos isSign, hour, some_bind]
  dsimp only
  rw [readChar_cons_self, some_bind, minute, some_bind]
  dsimp only
  exact if_pos ⟨hours_le, minutes_le⟩

namespace Ordinary

/-- An ordinary year is one of those that can be resolved. -/
theorem near (ordinary : written.Ordinary) :
    Timestamp.minYear ≤ written.date.year ∧ written.date.year ≤ Timestamp.maxYear :=
  ⟨le_trans (by decide) ordinary.fourDigits.1, ordinary.fourDigits.2.trans (by decide)⟩

/-- All spellings mean the same. -/
theorem resolve_spellings (ordinary : written.Ordinary) {spelling before after : List Char}
    (spelled : spelling ∈ written.spellings) (blank : ∀ c ∈ before, isBlank c = true)
    (blank' : ∀ c ∈ after, isBlank c = true) :
    Timestamp.resolve (String.ofList (before ++ spelling ++ after)) = some written.instant := by
  have valid := ordinary.toValid
  have noZone {hyphen separator : Char} (sign : hyphen = '-' ∨ hyphen = '/')
      (parts : separator = 'T' ∨ separator = ' ') :=
    resolve_text valid ordinary.near sign parts blank blank'
  have utc : Timestamp.resolve (String.ofList (before ++ written.text '-' 'T' ['Z'] ++ after)) =
      some (written.instant.shift (-0)) :=
    resolve_zoned_text valid ordinary.fourDigits (.inl rfl) (endsFraction_cons (.inl rfl) [])
      rfl (List.forall_mem_singleton.mpr rfl) blank blank'
  rw [neg_zero, Instant.shift, add_zero] at utc
  simp only [spellings, List.mem_cons, List.not_mem_nil, or_false] at spelled
  rcases spelled with rfl | rfl | rfl | rfl | rfl
  · exact utc
  · exact noZone (.inl rfl) (.inl rfl)
  · exact noZone (.inl rfl) (.inr rfl)
  · exact noZone (.inr rfl) (.inl rfl)
  · exact noZone (.inr rfl) (.inr rfl)

/-- A written offset is the distance from UTC. -/
theorem resolve_offset (ordinary : written.Ordinary) {sign : Char} (known : sign = '+' ∨ sign = '-')
    {hours minutes : Nat} (hours_le : hours ≤ 23) (minutes_le : minutes ≤ 59)
    {before after : List Char} (blank : ∀ c ∈ before, isBlank c = true)
    (blank' : ∀ c ∈ after, isBlank c = true) :
    Timestamp.resolve (String.ofList
        (before ++ written.text '-' 'T' (zoneText sign hours minutes) ++ after)) =
      some (written.instant.shift (-zoneDistance sign hours minutes)) :=
  resolve_zoned_text ordinary.toValid ordinary.fourDigits (.inl rfl)
    (endsFraction_cons (.inr known) _)
    (readZone_zoneText known hours_le minutes_le) (visible_zoneText known hours minutes)
    blank blank'

/-! ### Order -/

/-- The nanoseconds of an ordinary fraction have its exact value. -/
theorem fractionNanos_eq (ordinary : written.Ordinary) :
    (Timestamp.fractionNanos written.fraction : ℚ) = fractionValue written.fraction * 10 ^ 9 := by
  have kept : written.fraction.take 9 = written.fraction :=
    List.take_of_length_le ordinary.fraction_length
  have powers : (10 : ℚ) ^ 9 =
      10 ^ written.fraction.length * 10 ^ (9 - written.fraction.length) := by
    rw [← pow_add, Nat.add_sub_cancel' ordinary.fraction_length]
  have nanos : Timestamp.fractionNanos written.fraction =
      digitsValue written.fraction * 10 ^ (9 - written.fraction.length) := by
    rw [Timestamp.fractionNanos, kept]
    rfl
  rw [nanos, fractionValue, powers]
  push_cast
  field_simp

/-- Ordinary fractions are ordered as their nanoseconds are. -/
theorem nanos_lt_iff (ordinary : first.Ordinary) (ordinary' : second.Ordinary) :
    Timestamp.fractionNanos first.fraction < Timestamp.fractionNanos second.fraction ↔
      fractionValue first.fraction < fractionValue second.fraction := by
  rw [← Nat.cast_lt (α := ℚ), ordinary.fractionNanos_eq, ordinary'.fractionNanos_eq]
  exact mul_lt_mul_iff_left₀ (by positivity)

/-- The instant of an ordinary date-time counts its seconds, without a leap second. -/
theorem instant_eq (ordinary : written.Ordinary) :
    written.instant = ⟨written.date.dayNumber * 86400 + written.hour * 3600 +
      written.minute * 60 + written.second, Timestamp.fractionNanos written.fraction⟩ := by
  have noLeap : written.second ≠ 60 := by
    have within := ordinary.noLeap
    omega
  simp only [instant, Instant.ofCivil, if_neg noLeap]

/-- Within their bounds the fields of two times are compared one after the other. -/
theorem seconds_lt_iff (ordinary : first.Ordinary) (ordinary' : second.Ordinary) :
    first.instant.seconds < second.instant.seconds ↔
      first.date.dayNumber < second.date.dayNumber ∨
        first.date.dayNumber = second.date.dayNumber ∧ (first.hour < second.hour ∨
          first.hour = second.hour ∧ (first.minute < second.minute ∨
            first.minute = second.minute ∧ first.second < second.second)) := by
  have hours := ordinary.hour_le
  have hours' := ordinary'.hour_le
  have minutes := ordinary.minute_le
  have minutes' := ordinary'.minute_le
  have seconds := ordinary.noLeap
  have seconds' := ordinary'.noLeap
  rw [ordinary.instant_eq, ordinary'.instant_eq]
  dsimp only
  omega

/-- Of two date-times the one with the lesser fields is the earlier instant. -/
theorem instant_lt_iff (ordinary : first.Ordinary) (ordinary' : second.Ordinary) :
    first.instant < second.instant ↔ first.fields < second.fields := by
  have earlier := ordinary.seconds_lt_iff ordinary'
  have later := ordinary'.seconds_lt_iff ordinary
  have before := ordinary.date_exists.dayNumber_lt_iff ordinary'.date_exists
  have after := ordinary'.date_exists.dayNumber_lt_iff ordinary.date_exists
  have nanos := ordinary.nanos_lt_iff ordinary'
  simp only [fields, Prod.Lex.toLex_lt_toLex, Instant.lt_def, ← nanos]
  rw [ordinary.instant_eq, ordinary'.instant_eq] at earlier later ⊢
  dsimp only at earlier later ⊢
  omega

/-- Ordinary date-times are at the same instant just when they agree in all fields. -/
theorem instant_eq_iff (ordinary : first.Ordinary) (ordinary' : second.Ordinary) :
    first.instant = second.instant ↔ first.fields = second.fields := by
  have earlier := ordinary.instant_lt_iff ordinary'
  have later := ordinary'.instant_lt_iff ordinary
  constructor
  · intro same
    rw [same, iff_false_left (Instant.lt_irrefl _), not_lt] at earlier later
    exact le_antisymm later earlier
  · intro same
    rw [same, iff_false_right (lt_irrefl _)] at earlier later
    exact Instant.eq_of_not_lt earlier later

end Ordinary

/-- Two date-times, each in any of its spellings with any blanks around it: the spellings of one
resolve to one instant, written offsets are taken off it, and the instants of the two compare as
their fields do. -/
theorem resolve_spelling (first second : Written) (ordinary : first.Ordinary)
    (ordinary' : second.Ordinary) :
    (∀ before after : List Char, (∀ c ∈ before, isBlank c = true) →
      (∀ c ∈ after, isBlank c = true) →
      (∀ spelling ∈ first.spellings,
        Timestamp.resolve (String.ofList (before ++ spelling ++ after)) = some first.instant) ∧
      ∀ hours ≤ 23, ∀ minutes ≤ 59,
        Timestamp.resolve (String.ofList
            (before ++ first.text '-' 'T' (zoneText '+' hours minutes) ++ after)) =
          some (first.instant.shift (-(hours * 3600 + minutes * 60 : Int))) ∧
        Timestamp.resolve (String.ofList
            (before ++ first.text '-' 'T' (zoneText '-' hours minutes) ++ after)) =
          some (first.instant.shift (hours * 3600 + minutes * 60 : Int))) ∧
    (first.instant < second.instant ↔ first.fields < second.fields) ∧
    (first.instant = second.instant ↔ first.fields = second.fields) := by
  refine ⟨fun before after blank blank' => ⟨fun spelling spelled => ?_, ?_⟩,
    ordinary.instant_lt_iff ordinary', ordinary.instant_eq_iff ordinary'⟩
  · exact ordinary.resolve_spellings spelled blank blank'
  · intro hours hours_le minutes minutes_le
    have east := ordinary.resolve_offset (.inl rfl) hours_le minutes_le blank blank'
    have west := ordinary.resolve_offset (.inr rfl) hours_le minutes_le blank blank'
    rw [zoneDistance, if_pos rfl] at east
    rw [zoneDistance, if_neg (by decide), neg_neg] at west
    exact ⟨east, west⟩

/-- The last half second of a leap day, and the midnight after it. -/
theorem resolve_spelling_leap_day :
    Ordinary ⟨⟨2024, 2, 29⟩, 23, 59, 59, ['5']⟩ ∧ Ordinary ⟨⟨2024, 3, 1⟩, 0, 0, 0, []⟩ ∧
      Timestamp.resolve " 2024/02/29T23:59:59.5\n" = some ⟨1709251199, 500000000⟩ ∧
      Timestamp.resolve " 2024-02-29T23:59:59.5-00:30\n" = some ⟨1709252999, 500000000⟩ ∧
      fields ⟨⟨2024, 2, 29⟩, 23, 59, 59, ['5']⟩ < fields ⟨⟨2024, 3, 1⟩, 0, 0, 0, []⟩ := by
  have ordinary : Ordinary ⟨⟨2024, 2, 29⟩, 23, 59, 59, ['5']⟩ :=
    ⟨⟨by decide, by decide, by decide, by decide, by decide⟩, by decide, by decide, by decide⟩
  have ordinary' : Ordinary ⟨⟨2024, 3, 1⟩, 0, 0, 0, []⟩ :=
    ⟨⟨by decide, by decide, by decide, by decide, by decide⟩, by decide, by decide, by decide⟩
  obtain ⟨resolves, order, -⟩ := resolve_spelling _ _ ordinary ordinary'
  obtain ⟨spellings, offsets⟩ := resolves [' '] ['\n'] (List.forall_mem_singleton.mpr rfl)
    (List.forall_mem_singleton.mpr rfl)
  have slashes := spellings (text ⟨⟨2024, 2, 29⟩, 23, 59, 59, ['5']⟩ '/' 'T' []) (by decide)
  have west := (offsets 0 (by decide) 30 (by decide)).2
  have slashesText : String.ofList ([' '] ++ text ⟨⟨2024, 2, 29⟩, 23, 59, 59, ['5']⟩ '/' 'T' [] ++
      ['\n']) = " 2024/02/29T23:59:59.5\n" := by decide
  have westText : String.ofList ([' '] ++ text ⟨⟨2024, 2, 29⟩, 23, 59, 59, ['5']⟩ '-' 'T'
      (zoneText '-' 0 30) ++ ['\n']) = " 2024-02-29T23:59:59.5-00:30\n" := by decide
  rw [slashesText] at slashes
  rw [westText] at west
  exact ⟨ordinary, ordinary', slashes, west, order.mp (by decide)⟩

end QueryTail.Time.Written
