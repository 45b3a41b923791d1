import Mathlib.Data.List.Basic
import Mathlib.Data.List.TakeDrop
import QueryTail.Proofs.Text.Digits
import QueryTail.Proofs.Time.Calendar
import QueryTail.Time.Timestamp

/-!
# Dates and times written out

A date and a time of day are written field by field, every field with zeros in front up to its full
width. Only what separates the fields, and what follows them, differs from node to node. However it
is written, the date and time are read back, with or without a zone (`resolve_zoned_text`,
`resolve_text`).
-/

namespace QueryTail.Time

open Text

/-- A date and a time of day, with the digits that a fraction of a second is written with. -/
structure Written where
  date : Date
  hour : Nat
  minute : Nat
  second : Nat
  fraction : List Char

namespace Written

/-- The date and the time exist; the second may be a leap second. -/
structure Valid (written : Written) : Prop where
  date_exists : written.date.Exists
  hour_le : written.hour ≤ 23
  minute_le : written.minute ≤ 59
  second_le : written.second ≤ 60
  fraction_digits : AllDigits written.fraction

/-- The fraction behind its point; nothing if there are no digits. -/
def fractionText (fraction : List Char) : List Char :=
  if fraction = [] then [] else '.' :: fraction

/-- The time of day, with what follows it. -/
def clockText (written : Written) (rest : List Char) : List Char :=
  digitsPadded 2 written.hour ++ ':' :: (digitsPadded 2 written.minute ++
    ':' :: (digitsPadded 2 written.second ++ (fractionText written.fraction ++ rest)))

/-- The date, with what follows it. -/
def dateText (written : Written) (hyphen : Char) (rest : List Char) : List Char :=
  Instant.yearText written.date.year ++ hyphen :: (digitsPadded 2 written.date.month ++
    hyphen :: (digitsPadded 2 written.date.day ++ rest))

/-- A date and a time of day as they are written, given the sign inside the date, the sign between
date and time, and what follows. -/
def text (written : Written) (hyphen separator : Char) (zone : List Char) : List Char :=
  written.dateText hyphen (separator :: written.clockText zone)

/-- The time of day. -/
def time (written : Written) : TimeOfDay :=
  ⟨written.hour, written.minute, written.second, Timestamp.fractionNanos written.fraction⟩

/-- The date and time taken as UTC. -/
def instant (written : Written) : Instant :=
  .ofCivil written.date written.hour written.minute written.second
    (Timestamp.fractionNanos written.fraction)

variable {written : Written} {rest zone : List Char}

namespace Valid

/-- A valid month has two digits. -/
theorem month_lt (valid : written.Valid) : written.date.month < 10 ^ 2 := by
  have bounds := valid.date_exists.month_bounds
  omega

/-- A valid day has two digits. -/
theorem day_lt (valid : written.Valid) : written.date.day < 10 ^ 2 := by
  have length := monthLength_le written.date.year written.date.month
  have within := valid.date_exists.2
  omega

/-- A valid hour has two digits. -/
theorem hour_lt (valid : written.Valid) : written.hour < 10 ^ 2 :=
  Nat.lt_of_le_of_lt valid.hour_le (by decide)

/-- A valid minute has two digits. -/
theorem minute_lt (valid : written.Valid) : written.minute < 10 ^ 2 :=
  Nat.lt_of_le_of_lt valid.minute_le (by decide)

/-- A valid second has two digits. -/
theorem second_lt (valid : written.Valid) : written.second < 10 ^ 2 :=
  Nat.lt_of_le_of_lt valid.second_le (by decide)

end Valid

/-! ### The fraction -/

/-- What follows a fraction does not go on with it. -/
def EndsFraction (rest : List Char) : Prop :=
  ∀ c ∈ rest.head?, c ≠ '.' ∧ c.isDigit = false

/-- A fraction is read back from its text. -/
theorem readFraction_fractionText (valid : written.Valid) (ends : EndsFraction rest) :
    Timestamp.readFraction (fractionText written.fraction ++ rest) =
      some (Timestamp.fractionNanos written.fraction, rest) := by
  unfold fractionText
  split
  · next none =>
    rw [none, List.nil_append, Timestamp.readFraction.eq_def]
    split
    · exact absurd rfl (ends '.' rfl).1
    · rfl
  · next present =>
    have span : spanDigits (written.fraction ++ rest) = (written.fraction, rest) :=
      spanDigits_of_startsNoDigit valid.fraction_digits fun c first => (ends c first).2
    rw [List.cons_append, Timestamp.readFraction, span]
    split
    · next empty => exact absurd (congrArg Prod.fst empty) present
    · next same =>
      obtain ⟨rfl, rfl⟩ := Prod.mk.inj same
      rfl

/-! ### With a zone -/

/-- A year of four digits is read back from its text. -/
theorem readFixed_yearText {year : Int} (fourDigits : 0 ≤ year ∧ year ≤ 9999) (rest : List Char) :
    readFixed 4 (Instant.yearText year ++ rest) = some (year.toNat, rest) := by
  rw [Instant.yearText, if_pos fourDigits]
  exact readFixed_digitsPadded (by decide) (by omega) rest

/-- With full fields and hyphens, all but the zone is read, whatever the zone. -/
theorem resolveZoned_text (valid : written.Valid)
    (fourDigits : 0 ≤ written.date.year ∧ written.date.year ≤ 9999) {separator : Char}
    (parts : separator = 'T' ∨ separator = ' ') (ends : EndsFraction zone) :
    Timestamp.resolveZoned (written.text '-' separator zone) = (do
      let (distance, rest) ← Timestamp.readZone zone
      if rest.isEmpty then
        let instant ← Timestamp.instantOf written.date written.time
        some (instant.shift (-distance))
      else none) := by
  have two : 0 < 2 := by decide
  have year := readFixed_yearText fourDigits
  have month := readFixed_digitsPadded two valid.month_lt
  have day := readFixed_digitsPadded two valid.day_lt
  have hour := readFixed_digitsPadded two valid.hour_lt
  have minute := readFixed_digitsPadded two valid.minute_lt
  have second := readFixed_digitsPadded two valid.second_lt
  have fraction := readFraction_fractionText valid ends
  have separated (rest : List Char) : Timestamp.readSeparator (separator :: rest) = some rest :=
    if_pos (parts.imp_right Or.inr)
  have date : (⟨written.date.year.toNat, written.date.month, written.date.day⟩ : Date) =
      written.date := by
    rw [Int.toNat_of_nonneg fourDigits.1]
  unfold Timestamp.resolveZoned text dateText clockText
  -- One step for each field, in the order in which they are read.
  rw [year, some_bind]
  dsimp only
  rw [readChar_cons_self, some_bind, month, some_bind]
  dsimp only
  rw [readChar_cons_self, some_bind, day, some_bind]
  dsimp only
  rw [separated, some_bind, hour, some_bind]
  dsimp only
  rw [readChar_cons_self, some_bind, minute, some_bind]
  dsimp only
  rw [readChar_cons_self, some_bind, second, some_bind]
  dsimp only
  rw [fraction, some_bind]
  dsimp only
  rw [date]
  rfl

/-! ### Without a zone -/

/-- A digit is no blank. -/
theorem isBlank_of_isDigit {c : Char} (digit : c.isDigit = true) : isBlank c = false := by
  have bounds := toNat_bounds_of_isDigit digit
  simp only [isBlank, Bool.or_eq_false_iff, Bool.and_eq_false_iff, decide_eq_false_iff_not,
    beq_eq_false_iff_ne]
  omega

/-- No blanks are skipped before a number. -/
theorem skipBlanks_digitsPadded (width n : Nat) (rest : List Char) :
    skipBlanks (digitsPadded width n ++ rest) = digitsPadded width n ++ rest := by
  obtain ⟨c, more, parts, digit⟩ := exists_digitsPadded_eq_cons width n
  rw [parts]
  exact skipBlanks_cons_of_not_blank (isBlank_of_isDigit digit)

/-- A number of two digits is read back as a field. -/
theorem readField_digitsPadded {n : Nat} (fits : n < 10 ^ 2) (rest : List Char) :
    Timestamp.readField (digitsPadded 2 n ++ rest) = some (n, rest) := by
  rw [Timestamp.readField, skipBlanks_digitsPadded]
  exact readNumberUpTo_digitsPadded (by decide) fits rest

/-- Behind a minus sign a year may have any number of digits. -/
theorem readYear_minus (rest : List Char) :
    Timestamp.readYear ('-' :: rest) =
      (readNumber rest).map fun read => (-(read.1 : Int), read.2) := rfl

/-- Behind a plus sign a year may have any number of digits. -/
theorem readYear_plus (rest : List Char) :
    Timestamp.readYear ('+' :: rest) =
      (readNumber rest).map fun read => ((read.1 : Int), read.2) := rfl

/-- Without a sign a year has at most four digits. -/
theorem readYear_digit {c : Char} (digit : c.isDigit = true) (rest : List Char) :
    Timestamp.readYear (c :: rest) =
      (readNumberUpTo 4 (c :: rest)).map fun read => ((read.1 : Int), read.2) := by
  rw [Timestamp.readYear, skipBlanks_cons_of_not_blank (isBlank_of_isDigit digit)]
  split
  · next same =>
    obtain ⟨rfl, -⟩ := List.cons.inj same
    cases digit
  · next same =>
    obtain ⟨rfl, -⟩ := List.cons.inj same
    cases digit
  · rfl

/-- A year is read back, with or without a sign. -/
theorem readYear_yearText (year : Int) (stops : StartsNoDigit rest) :
    Timestamp.readYear (Instant.yearText year ++ rest) = some (year, rest) := by
  rw [Instant.yearText]
  split
  · next fourDigits =>
    have number : readNumberUpTo 4 (digitsPadded 4 year.toNat ++ rest) =
        some (year.toNat, rest) := readNumberUpTo_digitsPadded (by decide) (by omega) rest
    obtain ⟨c, more, parts, digit⟩ := exists_digitsPadded_eq_cons 4 year.toNat
    rw [parts, List.cons_append] at number ⊢
    rw [readYear_digit digit, number, Option.map_some, Int.toNat_of_nonneg fourDigits.1]
  · next outside =>
    have number := readNumber_digitsPadded 4 year.natAbs stops
    split
    · next negative =>
      have value : -(year.natAbs : Int) = year := by omega
      rw [List.cons_append, readYear_minus, number, Option.map_some, value]
    · next positive =>
      have value : (year.natAbs : Int) = year := by omega
      rw [List.cons_append, readYear_plus, number, Option.map_some, value]

/-- Seconds are read back from the end of a clock time. -/
theorem readSeconds_clock (valid : written.Valid) :
    Timestamp.readSeconds (':' :: (digitsPadded 2 written.second ++
        (fractionText written.fraction ++ []))) =
      some ((written.second, Timestamp.fractionNanos written.fraction), []) := by
  have ends : EndsFraction [] := fun c none => by cases none
  rw [Timestamp.readSeconds, readField_digitsPadded valid.second_lt, some_bind]
  dsimp only
  rw [readFraction_fractionText valid ends, some_bind]

/-- A text in which slashes and the first `T` are rewritten. -/
theorem resolveNaive_of_normalise (valid : written.Valid) {raw : List Char}
    (normal : Timestamp.normalise raw = written.text '-' ' ' []) :
    Timestamp.resolveNaive raw = Timestamp.instantOf written.date written.time := by
  have hour (rest : List Char) :
      Timestamp.readField (' ' :: (digitsPadded 2 written.hour ++ rest)) =
        some (written.hour, rest) := readField_digitsPadded valid.hour_lt rest
  unfold Timestamp.resolveNaive
  rw [normal]
  unfold text dateText clockText
  rw [readYear_yearText _ (by simp [StartsNoDigit]), some_bind]
  dsimp only
  rw [readChar_cons_self, some_bind, readField_digitsPadded valid.month_lt, some_bind]
  dsimp only
  rw [readChar_cons_self, some_bind, readField_digitsPadded valid.day_lt, some_bind]
  dsimp only
  rw [hour, some_bind]
  dsimp only
  rw [readChar_cons_self, some_bind, readField_digitsPadded valid.minute_lt, some_bind]
  dsimp only
  rw [readSeconds_clock valid, some_bind]
  rfl

/-! ### Signs between the fields -/

/-- A text with hyphens for its slashes. -/
def hyphens (text : List Char) : List Char :=
  text.map fun c => if c = '/' then '-' else c

/-- Slashes become hyphens part by part. -/
theorem hyphens_append (front back : List Char) :
    hyphens (front ++ back) = hyphens front ++ hyphens back :=
  List.map_append

/-- Turning slashes to hyphens brings in no letter T. -/
theorem not_mem_hyphens {text : List Char} (absent : 'T' ∉ text) : 'T' ∉ hyphens text := by
  intro among
  obtain ⟨c, member, same⟩ := List.mem_map.mp among
  split at same
  · cases same
  · exact absent (same ▸ member)

/-- Without the letter T, only slashes are replaced. -/
theorem normalise_of_not_mem {text : List Char} (absent : 'T' ∉ text) :
    Timestamp.normalise text = hyphens text := by
  have before : ∀ c ∈ hyphens text, decide (c ≠ 'T') = true := fun c among =>
    decide_eq_true fun same => not_mem_hyphens absent (same ▸ among)
  have split : (hyphens text).span (· ≠ 'T') = (hyphens text, []) := by
    rw [List.span_eq_takeWhile_dropWhile, List.takeWhile_eq_self_iff.mpr before,
      List.dropWhile_eq_nil_iff.mpr before]
  unfold Timestamp.normalise
  rw [← hyphens]
  dsimp only
  rw [split]

/-- The first letter T becomes a space, and the slashes around it are replaced. -/
theorem normalise_append {front : List Char} (absent : 'T' ∉ front) (back : List Char) :
    Timestamp.normalise (front ++ 'T' :: back) = hyphens front ++ ' ' :: hyphens back := by
  have before : ∀ c ∈ hyphens front, decide (c ≠ 'T') = true := fun c among =>
    decide_eq_true fun same => not_mem_hyphens absent (same ▸ among)
  have split : (hyphens (front ++ 'T' :: back)).span (· ≠ 'T') =
      (hyphens front, 'T' :: hyphens back) := by
    rw [List.span_eq_takeWhile_dropWhile, hyphens_append,
      List.takeWhile_append_of_pos before, List.dropWhile_append_of_pos before]
    simp [hyphens]
  unfold Timestamp.normalise
  rw [← hyphens]
  dsimp only
  rw [split]

/-- There are only characters of fields in the text: no slash, no letter and no blank. -/
def InFields (text : List Char) : Prop :=
  ∀ c ∈ text, c.isDigit = true ∨ c ∈ ['-', '+', ':', '.']

namespace InFields

variable {text : List Char}

/-- Characters of fields are no slash, no letter T and no blank. -/
theorem plain (fields : InFields text) : ∀ c ∈ text, c ≠ '/' ∧ c ≠ 'T' ∧ isBlank c = false := by
  intro c among
  rcases fields c among with digit | sign
  · refine ⟨?_, ?_, isBlank_of_isDigit digit⟩ <;> rintro rfl <;> cases digit
  · simp only [List.mem_cons, List.not_mem_nil, or_false] at sign
    rcases sign with rfl | rfl | rfl | rfl <;> decide

/-- The letter T is no character of a field. -/
theorem not_mem (fields : InFields text) : 'T' ∉ text :=
  fun among => (fields.plain 'T' among).2.1 rfl

/-- There are no slashes to replace among characters of fields. -/
theorem hyphens_eq (fields : InFields text) : hyphens text = text := by
  refine (List.map_congr_left fun c among => ?_).trans (List.map_id text)
  exact if_neg (fields.plain c among).1

end InFields

/-- A number is written in characters of fields. -/
theorem inFields_digitsPadded (width n : Nat) : InFields (digitsPadded width n) :=
  fun c among => .inl (allDigits_digitsPadded width n c among)

/-- A number and a colon may stand before characters of fields. -/
theorem inFields_before_colon (width n : Nat) {text : List Char} (fields : InFields text) :
    InFields (digitsPadded width n ++ ':' :: text) :=
  List.forall_mem_append.mpr ⟨inFields_digitsPadded width n,
    List.forall_mem_cons.mpr ⟨.inr (by decide), fields⟩⟩

/-- A year is written in characters of fields. -/
theorem inFields_yearText (year : Int) : InFields (Instant.yearText year) := by
  unfold Instant.yearText
  split
  · exact inFields_digitsPadded _ _
  · refine List.forall_mem_cons.mpr ⟨.inr ?_, inFields_digitsPadded _ _⟩
    split <;> decide

/-- A fraction is written in characters of fields. -/
theorem inFields_fractionText (valid : written.Valid) :
    InFields (fractionText written.fraction) := by
  unfold fractionText
  split
  · exact fun c none => absurd none List.not_mem_nil
  · exact List.forall_mem_cons.mpr ⟨.inr (by decide),
      fun c among => .inl (valid.fraction_digits c among)⟩

/-- A clock time is written in characters of fields. -/
theorem inFields_clockText (valid : written.Valid) : InFields (written.clockText []) := by
  have nothing : InFields [] := fun c none => absurd none List.not_mem_nil
  have fraction : InFields (fractionText written.fraction ++ []) :=
    List.forall_mem_append.mpr ⟨inFields_fractionText valid, nothing⟩
  have second : InFields (digitsPadded 2 written.second ++ (fractionText written.fraction ++ [])) :=
    List.forall_mem_append.mpr ⟨inFields_digitsPadded _ _, fraction⟩
  exact inFields_before_colon 2 _ (inFields_before_colon 2 _ second)

variable {hyphen separator : Char}

/-- What follows the text of a date does not change it. -/
theorem dateText_append (hyphen : Char) (front back : List Char) :
    written.dateText hyphen (front ++ back) = written.dateText hyphen front ++ back := by
  simp [dateText]

/-- The letter T is not in the text of a date. -/
theorem not_mem_dateText (sign : hyphen = '-' ∨ hyphen = '/') :
    'T' ∉ written.dateText hyphen [] := by
  have year := (inFields_yearText written.date.year).not_mem
  have month := (inFields_digitsPadded 2 written.date.month).not_mem
  have day := (inFields_digitsPadded 2 written.date.day).not_mem
  have other : 'T' ≠ hyphen := by rcases sign with rfl | rfl <;> decide
  simp [dateText, year, month, day, other]

/-- With its slashes replaced a date is written with hyphens. -/
theorem hyphens_dateText (sign : hyphen = '-' ∨ hyphen = '/') (rest : List Char) :
    hyphens (written.dateText hyphen rest) = written.dateText '-' (hyphens rest) := by
  have year := (inFields_yearText written.date.year).hyphens_eq
  have month := (inFields_digitsPadded 2 written.date.month).hyphens_eq
  have day := (inFields_digitsPadded 2 written.date.day).hyphens_eq
  have same (text : List Char) : hyphens (hyphen :: text) = '-' :: hyphens text := by
    rcases sign with rfl | rfl <;> rfl
  rw [dateText, hyphens_append, year, same, hyphens_append, month, same, hyphens_append, day,
    dateText]

/-- The signs that may stand inside a date, and between date and time, are rewritten to one of each
kind. -/
theorem normalise_text (valid : written.Valid) (sign : hyphen = '-' ∨ hyphen = '/')
    (parts : separator = 'T' ∨ separator = ' ') :
    Timestamp.normalise (written.text hyphen separator []) = written.text '-' ' ' [] := by
  have clock := (inFields_clockText valid).hyphens_eq
  rcases parts with rfl | rfl
  · rw [text, ← List.nil_append (_ :: _), dateText_append,
      normalise_append (not_mem_dateText sign), clock, hyphens_dateText sign, text,
      ← dateText_append]
    rfl
  · have absent : 'T' ∉ written.text hyphen ' ' [] := by
      rw [text, ← List.nil_append (_ :: _), dateText_append, List.mem_append, not_or]
      have later := (inFields_clockText valid).not_mem
      exact ⟨not_mem_dateText sign, by simpa using later⟩
    rw [normalise_of_not_mem absent, text, hyphens_dateText sign, text]
    exact congrArg _ (congrArg (' ' :: ·) clock)

/-! ### Blanks around a timestamp -/

/-- Every year has a text. -/
theorem yearText_ne_nil (year : Int) : Instant.yearText year ≠ [] := by
  unfold Instant.yearText
  split
  · exact digitsPadded_ne_nil _ _
  · exact List.cons_ne_nil _ _

/-- No blanks are around a date-time, unless the offset has some. -/
theorem solid_text (valid : written.Valid) (hyphen separator : Char)
    (visible : ∀ c ∈ zone, isBlank c = false) : Solid (written.text hyphen separator zone) := by
  constructor
  · intro c first
    obtain ⟨d, more, parts⟩ := List.exists_cons_of_ne_nil (yearText_ne_nil written.date.year)
    rw [text, dateText, parts] at first
    obtain rfl : d = c := Option.some.inj first
    exact ((inFields_yearText written.date.year).plain d (parts ▸ List.mem_cons_self)).2.2
  · intro c last
    -- Whatever there is of a fraction and of a zone, the last character stands behind the minutes.
    have parts : written.text hyphen separator zone =
        written.dateText hyphen (separator :: (digitsPadded 2 written.hour ++
          ':' :: (digitsPadded 2 written.minute ++ [':']))) ++
        (digitsPadded 2 written.second ++ (fractionText written.fraction ++ zone)) := by
      simp [text, dateText, clockText]
    have present : digitsPadded 2 written.second ++ (fractionText written.fraction ++ zone) ≠ [] :=
      List.append_ne_nil_of_left_ne_nil (digitsPadded_ne_nil _ _) _
    rw [parts, List.getLast?_append_of_ne_nil _ present] at last
    rcases List.mem_append.mp (List.mem_of_mem_getLast? last) with digit | later
    · exact ((inFields_digitsPadded _ _).plain c digit).2.2
    · rcases List.mem_append.mp later with fraction | zone
      · exact ((inFields_fractionText valid).plain c fraction).2.2
      · exact visible c zone

/-! ### Resolution -/

/-- Valid fields in a year that can be resolved make the instant that is written. -/
theorem instantOf_eq (valid : written.Valid) (near : Timestamp.minYear ≤ written.date.year ∧
    written.date.year ≤ Timestamp.maxYear) :
    Timestamp.instantOf written.date written.time = some written.instant :=
  if_pos ⟨valid.date_exists, ⟨valid.hour_le, valid.minute_le, valid.second_le⟩, near⟩

variable {before after : List Char}

/-- Without a zone the first attempt fails, whatever the signs. -/
theorem resolveZoned_text_nil (valid : written.Valid) (sign : hyphen = '-' ∨ hyphen = '/')
    (parts : separator = 'T' ∨ separator = ' ') :
    Timestamp.resolveZoned (written.text hyphen separator []) = none := by
  by_cases fourDigits : 0 ≤ written.date.year ∧ written.date.year ≤ 9999
  · rcases sign with rfl | rfl
    · rw [resolveZoned_text valid fourDigits parts fun c none => by cases none]
      rfl
    · unfold Timestamp.resolveZoned
      rw [text, dateText, readFixed_yearText fourDigits]
      rfl
  · have signed : StartsNoDigit (written.text hyphen separator []) := by
      intro c first
      rw [text, dateText, Instant.yearText, if_neg fourDigits] at first
      obtain rfl := Option.some.inj first
      split <;> rfl
    unfold Timestamp.resolveZoned
    rw [readFixed_eq_none (by decide) signed]
    rfl

/-- A date and time without a zone is taken as UTC, whatever the signs and the blanks around it. -/
theorem resolve_text (valid : written.Valid) (near : Timestamp.minYear ≤ written.date.year ∧
      written.date.year ≤ Timestamp.maxYear)
    (sign : hyphen = '-' ∨ hyphen = '/') (parts : separator = 'T' ∨ separator = ' ')
    (blank : ∀ c ∈ before, isBlank c = true) (blank' : ∀ c ∈ after, isBlank c = true) :
    Timestamp.resolve (String.ofList (before ++ written.text hyphen separator [] ++ after)) =
      some written.instant := by
  have solid : Solid (written.text hyphen separator []) :=
    solid_text valid hyphen separator fun c none => absurd none List.not_mem_nil
  rw [Timestamp.resolve, String.toList_ofList, trim_append blank blank' solid,
    resolveZoned_text_nil valid sign parts,
    resolveNaive_of_normalise valid (normalise_text valid sign parts), instantOf_eq valid near]
  rfl

/-- A date and time with a zone lies as far from UTC as the zone says. -/
theorem resolve_zoned_text (valid : written.Valid)
    (fourDigits : 0 ≤ written.date.year ∧ written.date.year ≤ 9999) {distance : Int}
    (parts : separator = 'T' ∨ separator = ' ') (ends : EndsFraction zone)
    (reads : Timestamp.readZone zone = some (distance, []))
    (visible : ∀ c ∈ zone, isBlank c = false)
    (blank : ∀ c ∈ before, isBlank c = true) (blank' : ∀ c ∈ after, isBlank c = true) :
    Timestamp.resolve (String.ofList (before ++ written.text '-' separator zone ++ after)) =
      some (written.instant.shift (-distance)) := by
  have near : Timestamp.minYear ≤ written.date.year ∧ written.date.year ≤ Timestamp.maxYear :=
    ⟨le_trans (by decide) fourDigits.1, fourDigits.2.trans (by decide)⟩
  rw [Timestamp.resolve, String.toList_ofList,
    trim_append blank blank' (solid_text valid '-' separator visible),
    resolveZoned_text valid fourDigits parts ends, reads, instantOf_eq valid near]
  rfl

end Written

end QueryTail.Time
