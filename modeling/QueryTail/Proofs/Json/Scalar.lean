import Mathlib.Data.List.DropRight
import QueryTail.Json.Printer
import QueryTail.Json.Reader
import QueryTail.Proofs.Text.Digits

/-!
# Reading back what was written: strings and whole numbers

A string is read back as it was written, whatever follows it. So is a whole number, unless what
follows goes on with a number (`endsNumber`). Nothing is said about the text of a double, which need
not be read back as the same double.
-/

namespace QueryTail.Json

open Text

variable {found text rest : List Char}

/-! ### White space -/

/-- A text that a value may start with: its first character is none that is skipped, and none that
closes an array. -/
def startsValue : List Char → Bool
  | [] => false
  | c :: _ => !(c = ' ' || c = '\n' || c = '\t' || c = '\r' || c = ']')

/-- A text starts as a value does if a beginning of it does. -/
theorem startsValue_append (starts : startsValue text = true) (rest : List Char) :
    startsValue (text ++ rest) = true := by
  cases text with
  | nil => cases starts
  | cons c text => exact starts

/-- There is no white space to skip before a value. -/
theorem skipSpace_of_startsValue (starts : startsValue text = true) : skipSpace text = text := by
  cases text with
  | nil => rfl
  | cons c text =>
    refine List.dropWhile_cons_of_neg ?_
    simp only [startsValue, Bool.not_eq_true', Bool.or_eq_false_iff] at starts
    simp [starts]

@[simp] theorem skipSpace_skipSpace (text : List Char) :
    skipSpace (skipSpace text) = skipSpace text :=
  List.dropWhile_idempotent _ text

/-! ### Strings -/

/-- A hexadecimal digit is read back. -/
theorem hexDigit_lowerHex {n : Nat} (small : n < 16) : hexDigit (lowerHex n) = some n := by
  have all : ∀ n < 16, hexDigit (lowerHex n) = some n := by decide
  exact all n small

/-- The escaped form of a control character denotes the character. -/
theorem hexUnit_lowerHex {n : Nat} (small : n < 0x20) :
    hexUnit '0' '0' (lowerHex (n / 16)) (lowerHex (n % 16)) = some n := by
  have high : hexDigit (lowerHex (n / 16)) = some (n / 16) := hexDigit_lowerHex (by omega)
  have low : hexDigit (lowerHex (n % 16)) = some (n % 16) := hexDigit_lowerHex (by omega)
  have zero : hexDigit '0' = some 0 := rfl
  simp only [hexUnit, zero, high, low, Option.bind_eq_bind, Option.bind_some, Option.some.injEq]
  omega

/-- A character that needs no escape stands for itself. -/
theorem readStringFrom_plain {c : Char} (noQuote : c ≠ '"') (noBackslash : c ≠ '\\')
    (visible : ¬c.toNat < 0x20) :
    readStringFrom found (c :: rest) = readStringFrom (c :: found) rest := by
  rw [readStringFrom.eq_def]
  split
  · next empty => cases empty
  · next quote => exact absurd (List.cons.inj quote).1 noQuote
  · next escape => exact absurd (List.cons.inj escape).1 noBackslash
  · next escape => exact absurd (List.cons.inj escape).1 noBackslash
  · next same =>
    obtain ⟨rfl, rfl⟩ := List.cons.inj same
    rw [if_neg visible]

/-- A control character is read back from its four hexadecimal digits. -/
theorem readStringFrom_control {c : Char} (control : c.toNat < 0x20) :
    readStringFrom found ('\\' :: 'u' :: '0' :: '0' :: lowerHex (c.toNat / 16) ::
        lowerHex (c.toNat % 16) :: rest) =
      readStringFrom (c :: found) rest := by
  have low : ¬(0xDC00 ≤ c.toNat ∧ c.toNat ≤ 0xDFFF) := by omega
  have high : ¬(0xD800 ≤ c.toNat ∧ c.toNat ≤ 0xDBFF) := by omega
  rw [readStringFrom, hexUnit_lowerHex control]
  dsimp only
  rw [if_neg low, if_neg high, Char.ofNat_toNat]

/-- A character is read back from its escaped form. -/
theorem readStringFrom_escapeChar (c : Char) :
    readStringFrom found (escapeChar c ++ rest) = readStringFrom (c :: found) rest := by
  unfold escapeChar
  -- One case for each short escape, in the order in which they are tried; what is left over has
  -- none and is a control character or plain.
  split
  · next same => subst same; rfl
  split
  · next same => subst same; rfl
  split
  · next same => subst same; rfl
  split
  · next same => subst same; rfl
  split
  · next same => subst same; rfl
  split
  · next same => subst same; rfl
  split
  · next same => subst same; rfl
  split
  · next control => exact readStringFrom_control control
  · next noQuote noBackslash _ _ _ _ _ visible =>
    exact readStringFrom_plain noQuote noBackslash visible

/-- A text is read back from its escaped form, up to the closing quote. -/
theorem readStringFrom_escaped (text : List Char) :
    readStringFrom found (text.flatMap escapeChar ++ '"' :: rest) =
      some (found.reverse ++ text, rest) := by
  induction text generalizing found with
  | nil =>
    rw [List.append_nil]
    rfl
  | cons c text ih =>
    rw [List.flatMap_cons, List.append_assoc, readStringFrom_escapeChar, ih, List.reverse_cons,
      List.append_assoc]
    rfl

/-- The name of a member, or a string, is read back. -/
theorem readString_quoted (value : String) :
    readString (value.toList.flatMap escapeChar ++ '"' :: rest) = some (value, rest) := by
  rw [readString, readStringFrom_escaped, Option.map_some, List.reverse_nil, List.nil_append]
  simp only [String.ofList_toList]

/-- The written form of a string with what follows it, after the opening quote. -/
theorem quote_append (value : String) :
    quote value ++ rest = '"' :: (value.toList.flatMap escapeChar ++ '"' :: rest) := by
  simp [quote]

/-! ### Digits -/

/-- What follows a number does not go on with it. -/
def endsNumber : List Char → Bool
  | [] => true
  | c :: _ => !(c.isDigit || c = '.' || c = 'e' || c = 'E')

/-- A number ends before a character that is no digit, point or exponent sign. -/
theorem endsNumber_cons {c : Char} :
    endsNumber (c :: rest) = true ↔ c.isDigit = false ∧ c ≠ '.' ∧ c ≠ 'e' ∧ c ≠ 'E' := by
  simp [endsNumber, and_assoc]

/-- Where a number ends no digit follows. -/
theorem startsNoDigit_of_endsNumber (ends : endsNumber rest = true) : StartsNoDigit rest := by
  intro c first
  obtain ⟨more, rfl⟩ := List.head?_eq_some_iff.mp first
  exact (endsNumber_cons.mp ends).1

/-- The digits of a number are spanned whole. -/
theorem spanDigits_digits (n : Nat) (ends : endsNumber rest = true) :
    spanDigits (digits n ++ rest) = (digits n, rest) :=
  spanDigits_of_startsNoDigit (allDigits_digits n) (startsNoDigit_of_endsNumber ends)

/-- Only the digits of zero start with a zero. -/
theorem eq_zero_of_digits_eq {n : Nat} {later : List Char} (same : digits n = '0' :: later) :
    n = 0 := by
  induction n using Nat.strongRecOn generalizing later with
  | ind n ih =>
    rcases Nat.lt_or_ge n 10 with small | large
    · rw [digits, Nat.toDigits_of_lt_base small] at same
      have first : Nat.digitChar n = '0' := (List.cons.inj same).1
      have all : ∀ n < 10, Nat.digitChar n = '0' → n = 0 := by decide
      exact all n small first
    · rw [digits, Nat.toDigits_of_base_le (by decide) large] at same
      obtain ⟨first, others, parts⟩ := List.exists_cons_of_ne_nil (digits_ne_nil (n / 10))
      have leading : digits (n / 10) = '0' :: others := by
        rw [show Nat.toDigits 10 (n / 10) = first :: others from parts] at same
        rw [parts, (List.cons.inj same).1]
      have none : n / 10 = 0 := ih (n / 10) (by omega) leading
      omega

/-! ### Whole numbers -/

/-- A whole number fits 64 bits, with or without a sign. -/
def Number.InRange : Number → Prop
  | .integer value => -9223372036854775808 ≤ value ∧ value ≤ Numeral.maxWord
  | .real _ => True

namespace Numeral

/-- The digits of a number are read as its integer part. -/
theorem readWhole_digits (n : Nat) (ends : endsNumber rest = true) :
    readWhole (digits n ++ rest) = some (digits n, rest) := by
  rw [readWhole, spanDigits_digits n ends]
  split
  · next none => exact absurd (congrArg Prod.fst none) (digits_ne_nil n)
  · next zero =>
    obtain ⟨single, rfl⟩ := Prod.mk.inj zero
    rw [single]
  · next later _ several zero =>
    have leading : digits n = '0' :: later := congrArg Prod.fst zero
    obtain rfl := eq_zero_of_digits_eq leading
    exact absurd (List.cons.inj leading).2.symm several
  · next same => exact congrArg some same.symm

/-- Where a number ends no fraction follows. -/
theorem readFraction_of_endsNumber (ends : endsNumber rest = true) :
    readFraction rest = some (none, rest) := by
  unfold readFraction
  split
  · exact absurd rfl (endsNumber_cons.mp ends).2.1
  · rfl

/-- Where a number ends no exponent follows. -/
theorem readExponent_of_endsNumber (ends : endsNumber rest = true) :
    readExponent rest = some (none, rest) := by
  unfold readExponent
  split
  · next c rest =>
    obtain ⟨-, -, noExponent⟩ := endsNumber_cons.mp ends
    rw [if_neg (not_or.mpr noExponent)]
  · rfl

/-- A whole number as it is written. -/
def ofInteger (value : Int) : Numeral :=
  ⟨decide (value < 0), digits value.natAbs, none, none⟩

/-- An integer is read back as its numeral. -/
theorem read_integer (value : Int) (ends : endsNumber rest = true) :
    read ((Number.integer value).text ++ rest) = some (ofInteger value, rest) := by
  have whole := readWhole_digits value.natAbs ends
  have fraction := readFraction_of_endsNumber ends
  have exponent := readExponent_of_endsNumber ends
  by_cases negative : value < 0
  · have text : (Number.integer value).text = '-' :: digits value.natAbs := if_pos negative
    rw [text, ofInteger, decide_eq_true negative]
    simp only [List.cons_append, read, whole, fraction, exponent, Option.bind_eq_bind,
      Option.bind_some]
  · have text : (Number.integer value).text = digits value.natAbs := if_neg negative
    rw [text, ofInteger, decide_eq_false negative, read]
    · simp only [whole, fraction, exponent, Option.bind_eq_bind, Option.bind_some]
    · intro later minus
      have member : '-' ∈ digits value.natAbs := by
        obtain ⟨first, others, parts⟩ := List.exists_cons_of_ne_nil (digits_ne_nil value.natAbs)
        rw [parts] at minus ⊢
        rw [← (List.cons.inj minus).1]
        exact List.mem_cons_self
      cases allDigits_digits _ _ member

/-- The numeral of an integer in range has that integer as its value. -/
theorem value_ofInteger {value : Int} (inRange : (Number.integer value).InRange) :
    (ofInteger value).value = some (.integer value) := by
  obtain ⟨least, greatest⟩ := inRange
  have magnitude : digitsValue (digits value.natAbs) = value.natAbs := digitsValue_digits _
  unfold Numeral.value ofInteger
  dsimp only
  rw [magnitude]
  by_cases negative : value < 0
  · have isWhole : (value.natAbs != 0 && decide (value.natAbs ≤ 9223372036854775808)) = true := by
      simp only [Bool.and_eq_true, bne_iff_ne, decide_eq_true_eq]
      omega
    have same : -(value.natAbs : Int) = value := by omega
    simp only [decide_eq_true negative, Option.isNone_none, Bool.true_and, isWhole, if_true, same]
  · have isWhole : decide (value.natAbs ≤ maxWord) = true := by
      simp only [decide_eq_true_eq]
      omega
    have same : (value.natAbs : Int) = value := by omega
    simp only [decide_eq_false negative, Option.isNone_none, Bool.true_and, isWhole, if_true,
      Bool.false_eq_true, if_false, same]

/-- Only numbers in range are values of numerals. -/
theorem inRange_of_value {numeral : Numeral} {number : Number}
    (denotes : numeral.value = some number) : number.InRange := by
  cases number with
  | real value => trivial
  | integer value =>
    -- A number that is not whole is read as a double.
    have isReal : numeral.toReal.map Number.real ≠ some (.integer value) := by simp
    unfold Numeral.value at denotes
    dsimp only at denotes
    by_cases negative : numeral.negative = true
    · simp only [negative, if_true] at denotes
      split at denotes
      · next isWhole =>
        obtain rfl := Number.integer.inj (Option.some.inj denotes)
        have bounded : digitsValue numeral.whole ≤ 9223372036854775808 := by
          simp only [Bool.and_eq_true, decide_eq_true_eq] at isWhole
          exact isWhole.2.2
        unfold Number.InRange maxWord
        omega
      · exact absurd denotes isReal
    · simp only [Bool.not_eq_true] at negative
      simp only [negative, Bool.false_eq_true, if_false] at denotes
      split at denotes
      · next isWhole =>
        obtain rfl := Number.integer.inj (Option.some.inj denotes)
        have bounded : digitsValue numeral.whole ≤ maxWord := by
          simp only [Bool.and_eq_true, decide_eq_true_eq] at isWhole
          exact isWhole.2
        unfold Number.InRange
        omega
      · exact absurd denotes isReal

end Numeral

/-! ### What starts like a number -/

/-- A minus sign or a digit differs from every character that is neither. -/
theorem ne_of_numeric {c other : Char} (numeric : c = '-' ∨ c.isDigit = true)
    (noMinus : other ≠ '-') (noDigit : other.isDigit = false) : c ≠ other := by
  rintro rfl
  rcases numeric with minus | digit
  · exact noMinus minus
  · rw [digit] at noDigit
    cases noDigit

/-- A minus sign or a digit starts a value. -/
theorem startsValue_of_numeric {c : Char} (numeric : c = '-' ∨ c.isDigit = true) :
    startsValue (c :: rest) = true := by
  have blank : c ≠ ' ' := ne_of_numeric numeric (by decide) rfl
  have newLine : c ≠ '\n' := ne_of_numeric numeric (by decide) rfl
  have tab : c ≠ '\t' := ne_of_numeric numeric (by decide) rfl
  have carriageReturn : c ≠ '\r' := ne_of_numeric numeric (by decide) rfl
  have bracket : c ≠ ']' := ne_of_numeric numeric (by decide) rfl
  simp [startsValue, blank, newLine, tab, carriageReturn, bracket]

/-- The text of a whole number starts with a sign or a digit. -/
theorem exists_text_cons (value : Int) :
    ∃ first others, (Number.integer value).text = first :: others ∧
      (first = '-' ∨ first.isDigit = true) := by
  unfold Number.text
  dsimp only
  split
  · exact ⟨'-', _, rfl, .inl rfl⟩
  · obtain ⟨first, others, parts⟩ := List.exists_cons_of_ne_nil (digits_ne_nil value.natAbs)
    exact ⟨first, others, parts, .inr (allDigits_digits _ first (parts ▸ List.mem_cons_self))⟩

/-- What starts like a number is read as one. -/
theorem readScalar_numeral {c : Char} (numeric : c = '-' ∨ c.isDigit = true) :
    readScalar (c :: rest) = (do
      let (numeral, rest) ← Numeral.read (c :: rest)
      let value ← numeral.value
      some (.number value, rest)) := by
  rw [readScalar.eq_def]
  split
  · next same => exact absurd (List.cons.inj same).1 (ne_of_numeric numeric (by decide) rfl)
  · next same => exact absurd (List.cons.inj same).1 (ne_of_numeric numeric (by decide) rfl)
  · next same => exact absurd (List.cons.inj same).1 (ne_of_numeric numeric (by decide) rfl)
  · next same => exact absurd (List.cons.inj same).1 (ne_of_numeric numeric (by decide) rfl)
  · rfl

/-- An integer in range is read back as a scalar. -/
theorem readScalar_integer {value : Int} (inRange : (Number.integer value).InRange)
    (ends : endsNumber rest = true) :
    readScalar ((Number.integer value).text ++ rest) =
      some (.number (.integer value), rest) := by
  have reads := Numeral.read_integer value ends
  obtain ⟨first, others, parts, numeric⟩ := exists_text_cons value
  rw [parts, List.cons_append] at reads ⊢
  rw [readScalar_numeral numeric, reads]
  simp [Numeral.value_ofInteger inRange]

/-- A text between quotes is read back as a scalar. -/
theorem readScalar_quote (value : String) :
    readScalar (quote value ++ rest) = some (.string value, rest) := by
  rw [quote_append, readScalar, readString_quoted]
  rfl

end QueryTail.Json
