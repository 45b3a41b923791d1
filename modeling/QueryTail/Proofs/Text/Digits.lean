import Mathlib.Data.List.Induction
import Mathlib.Data.List.TakeWhile
import Mathlib.Tactic.Ring
import QueryTail.Text.Digits

/-!
# Digits read back

A number that is written with zeros in front up to some width has just that width, if it is small
enough, and it is read back by every reader that takes so many digits (`readFixed_digitsPadded`,
`readNumberUpTo_digitsPadded`), whatever follows. A reader that takes all digits reads it back if no
digit follows (`readNumber_digitsPadded`).
-/

namespace QueryTail.Text

variable {found text rest : List Char} {width n value : Nat}

/-- There is nothing but digits in the text. -/
def AllDigits (text : List Char) : Prop :=
  ∀ c ∈ text, c.isDigit = true

instance (text : List Char) : Decidable (AllDigits text) :=
  decidable_of_iff (text.all Char.isDigit = true) List.all_eq_true

/-- A text does not start with a digit. -/
def StartsNoDigit (text : List Char) : Prop :=
  ∀ c ∈ text.head?, c.isDigit = false

/-! ### Values -/

/-- The codes of digits go from 48 to 57. -/
theorem toNat_bounds_of_isDigit {c : Char} (digit : c.isDigit = true) :
    48 ≤ c.toNat ∧ c.toNat ≤ 57 := by
  simpa [Char.isDigit, UInt32.le_iff_toNat_le] using digit

/-- The value of digits in a row is that of the front, shifted, and that of the back. -/
theorem digitsValue_append (front back : List Char) :
    digitsValue (front ++ back) = digitsValue front * 10 ^ back.length + digitsValue back := by
  induction back using List.reverseRecOn with
  | nil => simp
  | append_singleton back c ih =>
    rw [← List.append_assoc, digitsValue_append_singleton, digitsValue_append_singleton, ih,
      List.length_append, List.length_singleton, pow_succ]
    ring

/-- Digits denote a number that needs no more digits. -/
theorem AllDigits.digitsValue_lt (all : AllDigits text) : digitsValue text < 10 ^ text.length := by
  induction text using List.reverseRecOn with
  | nil => exact Nat.one_pos
  | append_singleton text c ih =>
    have before := ih fun d among => all d (List.mem_append_left _ among)
    have last := toNat_bounds_of_isDigit (all c (by simp))
    rw [digitsValue_append_singleton, List.length_append, List.length_singleton, pow_succ]
    omega

/-! ### Written numbers -/

/-- Every number has a digit. -/
theorem digits_ne_nil (n : Nat) : digits n ≠ [] :=
  Nat.toDigits_ne_nil

/-- The digits of a number are digits. -/
theorem allDigits_digits (n : Nat) : AllDigits (digits n) :=
  fun _ among => Nat.isDigit_of_mem_toDigits (by decide) (by decide) among

/-- A number that fits is padded to just the width. -/
theorem length_digitsPadded (positive : 0 < width) (fits : n < 10 ^ width) :
    (digitsPadded width n).length = width := by
  have short : (digits n).length ≤ width :=
    (Nat.length_toDigits_le_iff (by decide) positive).mpr fits
  rw [digitsPadded, List.length_append, List.length_replicate]
  omega

/-- A padded number consists of digits. -/
theorem allDigits_digitsPadded (width n : Nat) : AllDigits (digitsPadded width n) := by
  intro c among
  rcases List.mem_append.mp among with zero | digit
  · rw [List.eq_of_mem_replicate zero]
    rfl
  · exact allDigits_digits n c digit

/-- A padded number has a digit. -/
theorem digitsPadded_ne_nil (width n : Nat) : digitsPadded width n ≠ [] :=
  List.append_ne_nil_of_right_ne_nil _ (digits_ne_nil n)

/-- A padded number begins with a digit. -/
theorem exists_digitsPadded_eq_cons (width n : Nat) :
    ∃ c more, digitsPadded width n = c :: more ∧ c.isDigit = true := by
  obtain ⟨c, more, parts⟩ := List.exists_cons_of_ne_nil (digitsPadded_ne_nil width n)
  exact ⟨c, more, parts, allDigits_digitsPadded width n c (parts ▸ List.mem_cons_self)⟩

/-- Zeros have the value zero. -/
theorem digitsValue_replicate_zero (count : Nat) : digitsValue (List.replicate count '0') = 0 := by
  induction count with
  | zero => rfl
  | succ count ih => rw [List.replicate_succ', digitsValue_append_singleton, ih]; rfl

@[simp] theorem digitsValue_digitsPadded (width n : Nat) :
    digitsValue (digitsPadded width n) = n := by
  rw [digitsPadded, digitsValue_append, digitsValue_replicate_zero, digitsValue_digits,
    Nat.zero_mul, Nat.zero_add]

/-! ### Readers -/

/-- Behind a reader that succeeds the next one goes on. -/
theorem some_bind {α β : Type} (value : α) (next : α → Option β) :
    (some value >>= next) = next value := rfl

/-- As many digits as there are may be spanned, and they are all that is spanned. -/
theorem spanDigitsUpTo_append (all : AllDigits found) (rest : List Char) :
    spanDigitsUpTo found.length (found ++ rest) = (found, rest) := by
  have taken : (found ++ rest).take found.length = found := List.take_left
  simp only [spanDigitsUpTo, taken, List.takeWhile_eq_self_iff.mpr all, List.drop_left]

/-- Digits are spanned up to the first character that is none. -/
theorem spanDigits_of_startsNoDigit (all : AllDigits found) (stops : StartsNoDigit rest) :
    spanDigits (found ++ rest) = (found, rest) := by
  have none : rest.takeWhile Char.isDigit = [] ∧ rest.dropWhile Char.isDigit = rest := by
    cases rest with
    | nil => exact ⟨rfl, rfl⟩
    | cons c rest =>
      have noDigit : ¬c.isDigit = true := Bool.not_eq_true _ ▸ stops c rfl
      exact ⟨List.takeWhile_cons_of_neg noDigit, List.dropWhile_cons_of_neg noDigit⟩
  rw [spanDigits, List.takeWhile_append_of_pos all, List.dropWhile_append_of_pos all, none.1,
    none.2, List.append_nil]

/-- Digits, at least one, make a number. -/
theorem numberOf_of_ne_nil (present : found ≠ []) (rest : List Char) :
    numberOf (found, rest) = some (digitsValue found, rest) := by
  cases found with
  | nil => exact absurd rfl present
  | cons c found => rfl

/-- A number of a fixed width is read when there are that many digits. -/
theorem readFixed_eq (width : Nat) (text : List Char) :
    readFixed width text =
      if (spanDigitsUpTo width text).1.length = width then
        some (digitsValue (spanDigitsUpTo width text).1, (spanDigitsUpTo width text).2)
      else none := rfl

/-- A field of a fixed width is so many digits. -/
theorem readFixed_eq_some_iff : readFixed width text = some (value, rest) ↔
    ∃ found, AllDigits found ∧ found.length = width ∧ text = found ++ rest ∧
      value = digitsValue found := by
  rw [readFixed_eq]
  constructor
  · intro reads
    obtain ⟨length, same⟩ := Option.ite_none_right_eq_some.mp reads
    obtain ⟨rfl, rfl⟩ := Prod.mk.inj (Option.some.inj same)
    have long : (text.take width).length ≤ ((text.take width).takeWhile Char.isDigit).length :=
      (List.length_take_le width text).trans length.ge
    have whole : (text.take width).takeWhile Char.isDigit = text.take width :=
      (List.takeWhile_prefix _).eq_of_length_le long
    refine ⟨_, fun c among => List.mem_takeWhile_imp among, length, ?_, rfl⟩
    rw [spanDigitsUpTo] at length ⊢
    rw [length, whole, List.take_append_drop]
  · rintro ⟨found, all, rfl, rfl, rfl⟩
    rw [spanDigitsUpTo_append all]
    exact if_pos rfl

/-- A padded number is read back at its width, whatever follows. -/
theorem readFixed_digitsPadded (positive : 0 < width) (fits : n < 10 ^ width) (rest : List Char) :
    readFixed width (digitsPadded width n ++ rest) = some (n, rest) :=
  readFixed_eq_some_iff.mpr ⟨_, allDigits_digitsPadded width n, length_digitsPadded positive fits,
    rfl, (digitsValue_digitsPadded width n).symm⟩

/-- A padded number is read back as one of at most its width, whatever follows. -/
theorem readNumberUpTo_digitsPadded (positive : 0 < width) (fits : n < 10 ^ width)
    (rest : List Char) :
    readNumberUpTo width (digitsPadded width n ++ rest) = some (n, rest) := by
  have span := spanDigitsUpTo_append (allDigits_digitsPadded width n) rest
  rw [length_digitsPadded positive fits] at span
  rw [readNumberUpTo, span, numberOf_of_ne_nil (digitsPadded_ne_nil width n),
    digitsValue_digitsPadded]

/-- A padded number is read back if no digit follows. -/
theorem readNumber_digitsPadded (width n : Nat) (stops : StartsNoDigit rest) :
    readNumber (digitsPadded width n ++ rest) = some (n, rest) := by
  rw [readNumber, spanDigits_of_startsNoDigit (allDigits_digitsPadded width n) stops,
    numberOf_of_ne_nil (digitsPadded_ne_nil width n), digitsValue_digitsPadded]

/-- A field of a fixed width holds a number of that width. -/
theorem readFixed_lt (reads : readFixed width text = some (value, rest)) : value < 10 ^ width := by
  obtain ⟨found, all, rfl, -, rfl⟩ := readFixed_eq_some_iff.mp reads
  exact all.digitsValue_lt

/-- A text that does not start with a digit has no field of a fixed width. -/
theorem readFixed_eq_none (positive : 0 < width) (stops : StartsNoDigit text) :
    readFixed width text = none := by
  refine Option.eq_none_iff_forall_ne_some.mpr fun ⟨value, rest⟩ reads => ?_
  obtain ⟨found, all, length, rfl, -⟩ := readFixed_eq_some_iff.mp reads
  obtain ⟨c, more, rfl⟩ := List.exists_cons_of_length_pos (length ▸ positive)
  have digit := all c List.mem_cons_self
  rw [stops c rfl] at digit
  cases digit

end QueryTail.Text
