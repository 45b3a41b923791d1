/-!
# Decimal digits

Reading and writing natural numbers in decimal. The readers take characters from the front of a
text and return the number together with the characters that remain; they return `none` when the
text does not start as they require.
-/

namespace QueryTail.Text

/-- The decimal digits of a number, without leading zeros. -/
def digits (n : Nat) : List Char :=
  Nat.toDigits 10 n

/-- The number that a list of decimal digits denotes, most significant digit first. -/
def digitsValue (text : List Char) : Nat :=
  text.foldl (fun value c => 10 * value + (c.toNat - 48)) 0

/-- The decimal digits of a number, with zeros in front up to the given width. -/
def digitsPadded (width n : Nat) : List Char :=
  List.replicate (width - (digits n).length) '0' ++ digits n

/-- The leading digits of a text, and what follows them. -/
def spanDigits (text : List Char) : List Char × List Char :=
  (text.takeWhile Char.isDigit, text.dropWhile Char.isDigit)

/-- The leading digits of a text, at most `limit` of them, and what follows them. -/
def spanDigitsUpTo (limit : Nat) (text : List Char) : List Char × List Char :=
  let found := (text.take limit).takeWhile Char.isDigit
  (found, text.drop found.length)

/-- The number that a split-off list of digits denotes; there must be at least one digit. -/
def numberOf : List Char × List Char → Option (Nat × List Char)
  | ([], _) => none
  | (found, rest) => some (digitsValue found, rest)

/-- Read a number of at least one digit. -/
def readNumber (text : List Char) : Option (Nat × List Char) :=
  numberOf (spanDigits text)

/-- Read a number of at least one and at most `limit` digits; more digits may follow. -/
def readNumberUpTo (limit : Nat) (text : List Char) : Option (Nat × List Char) :=
  numberOf (spanDigitsUpTo limit text)

/-- Read a number of exactly `width` digits; more digits may follow. -/
def readFixed (width : Nat) (text : List Char) : Option (Nat × List Char) :=
  let (found, rest) := spanDigitsUpTo width text
  if found.length = width then some (digitsValue found, rest) else none

/-- Skip one given character. -/
def readChar (expected : Char) : List Char → Option (List Char)
  | c :: rest => if c = expected then some rest else none
  | [] => none

@[simp] theorem readChar_cons_self (c : Char) (rest : List Char) :
    readChar c (c :: rest) = some rest := by
  simp [readChar]

@[simp] theorem digitsValue_nil : digitsValue [] = 0 := rfl

/-- A digit at the end counts once, and the others ten times. -/
theorem digitsValue_append_singleton (text : List Char) (c : Char) :
    digitsValue (text ++ [c]) = 10 * digitsValue text + (c.toNat - 48) := by
  simp [digitsValue, List.foldl_append]

/-- Reading back the digits of a number gives the number. -/
theorem digitsValue_digits (n : Nat) : digitsValue (digits n) = n := by
  induction n using Nat.strongRecOn with
  | ind n ih =>
    unfold digits
    rcases Nat.lt_or_ge n 10 with small | large
    · rw [Nat.toDigits_of_lt_base small]
      simp [digitsValue, Nat.toNat_digitChar_sub_48_of_lt_ten small]
    · rw [Nat.toDigits_of_base_le (by decide) large, digitsValue_append_singleton]
      have step := ih (n / 10) (by omega)
      unfold digits at step
      rw [step, Nat.toNat_digitChar_sub_48_of_lt_ten (Nat.mod_lt n (by decide))]
      omega

end QueryTail.Text
