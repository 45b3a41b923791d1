import QueryTail.Text.Digits
import QueryTail.Toml.Basic
import QueryTail.Toml.Text

/-!
# Numbers and moments of TOML

Whole numbers fit 64 bits with a sign. They are written in decimal, or without a sign in one of
three other bases. Underscores may stand between two digits. A number with a fraction or an exponent
may be of any size but for a positive one that exceeds every double.

A moment is a date, a time of day, or a date with a time and perhaps a distance from universal time.
Only its form and the ranges of its parts are checked; its text is kept.
-/

namespace QueryTail.Toml

open Text (digitsValue)

/-- Read digits, possibly with single underscores between them, after a first digit. The digits are
given without the underscores, last first. -/
def readMoreDigits (isDigit : Char → Bool) (found : List Char) : List Char → List Char × List Char
  | '_' :: c :: rest =>
    if isDigit c then readMoreDigits isDigit (c :: found) rest else (found, '_' :: c :: rest)
  | c :: rest => if isDigit c then readMoreDigits isDigit (c :: found) rest else (found, c :: rest)
  | [] => (found, [])

/-- Read at least one digit, possibly with single underscores between two of them. -/
def readDigits (isDigit : Char → Bool) : List Char → Option (List Char × List Char)
  | c :: rest =>
    if isDigit c then
      let (found, rest) := readMoreDigits isDigit [c] rest
      some (found.reverse, rest)
    else none
  | [] => none

/-- Read a sign, if there is one; `true` stands for minus. -/
def readSign : List Char → Bool × List Char
  | '+' :: rest => (false, rest)
  | '-' :: rest => (true, rest)
  | text => (false, text)

/-- Read the digits of a whole decimal number: a zero by itself, or digits of which the first is
not zero. -/
def readWhole : List Char → Option (List Char × List Char)
  | '0' :: rest => some (['0'], rest)
  | text => readDigits Char.isDigit text

/-! ### Whole numbers -/

/-- The number that digits of a base denote. -/
def valueInBase (base : Nat) (digits : List Char) : Nat :=
  digits.foldl (fun value c => base * value + (hexDigit c).getD 0) 0

/-- The least whole number. -/
def leastInteger : Int := -9223372036854775808

/-- The greatest whole number. -/
def greatestInteger : Int := 9223372036854775807

/-- A whole number that fits 64 bits with a sign. -/
def fit (value : Int) : Option Int :=
  if leastInteger ≤ value ∧ value ≤ greatestInteger then some value else none

/-- A digit of a base up to sixteen. -/
def isDigitOf (base : Nat) (c : Char) : Bool :=
  match hexDigit c with
  | some value => value < base
  | none => false

/-- Read a whole number in a base other than ten, after the mark of the base. -/
def readInBase (base : Nat) (text : List Char) : Option (Value × List Char) := do
  let (digits, rest) ← readDigits (isDigitOf base) text
  some (.integer (← fit (valueInBase base digits)), rest)

/-- Read a whole number. -/
def readInteger (text : List Char) : Option (Value × List Char) :=
  match text with
  | '0' :: 'x' :: rest => readInBase 16 rest
  | '0' :: 'o' :: rest => readInBase 8 rest
  | '0' :: 'b' :: rest => readInBase 2 rest
  | text => do
    let (negative, rest) := readSign text
    let (digits, rest) ← readWhole rest
    let magnitude : Int := digitsValue digits
    some (.integer (← fit (if negative then -magnitude else magnitude)), rest)

/-! ### Other numbers -/

/-- Read a fraction after its point. -/
def readFraction : List Char → Option (List Char × List Char)
  | '.' :: rest => readDigits Char.isDigit rest
  | _ => none

/-- Read an exponent with its mark. -/
def readExponent : List Char → Option (Int × List Char)
  | c :: rest =>
    if c = 'e' ∨ c = 'E' then
      let (negative, rest) := readSign rest
      (readDigits Char.isDigit rest).map fun (digits, rest) =>
        let power : Int := digitsValue digits
        (if negative then -power else power, rest)
    else none
  | [] => none

/-- A positive decimal number is nearer to infinity than to any double. -/
def exceedsDoubles (coefficient : Nat) (exponent : Int) : Bool :=
  let places : Int := (Nat.toDigits 10 coefficient).length + exponent
  if coefficient = 0 ∨ places ≤ 308 then false
  else if 309 < places then true
  else
    let limit := Nat.pow 2 1024 - Nat.pow 2 970
    if 0 ≤ exponent then limit ≤ coefficient * Nat.pow 10 exponent.toNat
    else limit * Nat.pow 10 (-exponent).toNat ≤ coefficient

/-- Read a number that has a fraction or an exponent. -/
def readDecimal (text : List Char) : Option (Value × List Char) := do
  let (negative, rest) := readSign text
  let (whole, rest) ← readWhole rest
  let (fraction, exponent, rest) ← match readFraction rest with
    | some (fraction, rest) =>
      match readExponent rest with
      | some (exponent, rest) => some (fraction, exponent, rest)
      | none => some (fraction, 0, rest)
    | none => (readExponent rest).map fun (exponent, rest) => ([], exponent, rest)
  let coefficient := digitsValue (whole ++ fraction)
  let exponent := exponent - fraction.length
  if !negative && exceedsDoubles coefficient exponent then none
  else some (.real (.decimal negative coefficient exponent), rest)

/-- Read one of the special numbers. -/
def readSpecial (text : List Char) : Option (Value × List Char) :=
  match readSign text with
  | (negative, 'i' :: 'n' :: 'f' :: rest) => some (.real (.infinite negative), rest)
  | (_, 'n' :: 'a' :: 'n' :: rest) => some (.real .nan, rest)
  | _ => none

/-! ### Moments -/

/-- Read a number of exactly two digits in a range. -/
def readTwo (least greatest : Nat) (text : List Char) : Option (Nat × List Char) := do
  let (value, rest) ← Text.readFixed 2 text
  if least ≤ value ∧ value ≤ greatest then some (value, rest) else none

/-- The number of days in a month. -/
def daysInMonth (year month : Nat) : Nat :=
  if month = 2 then
    if year % 4 = 0 ∧ (year % 100 ≠ 0 ∨ year % 400 = 0) then 29 else 28
  else if month = 4 ∨ month = 6 ∨ month = 9 ∨ month = 11 then 30
  else 31

/-- Skip a date. -/
def skipDate (text : List Char) : Option (List Char) := do
  let (year, rest) ← Text.readFixed 4 text
  let rest ← Text.readChar '-' rest
  let (month, rest) ← readTwo 1 12 rest
  let rest ← Text.readChar '-' rest
  let (_, rest) ← readTwo 1 (daysInMonth year month) rest
  some rest

/-- Skip a fraction of a second, if there is one. -/
def skipSecondFraction (text : List Char) : List Char :=
  match text with
  | '.' :: c :: rest => if c.isDigit then rest.dropWhile Char.isDigit else text
  | text => text

/-- Skip a time of day. -/
def skipTime (text : List Char) : Option (List Char) := do
  let (_, rest) ← readTwo 0 23 text
  let rest ← Text.readChar ':' rest
  let (_, rest) ← readTwo 0 59 rest
  let rest ← Text.readChar ':' rest
  let (_, rest) ← readTwo 0 60 rest
  some (skipSecondFraction rest)

/-- Skip a distance from universal time with its sign. -/
def skipZone (text : List Char) : Option (List Char) := do
  let (_, rest) ← readTwo 0 23 text
  let rest ← Text.readChar ':' rest
  let (_, rest) ← readTwo 0 59 rest
  some rest

/-- Skip a distance from universal time, if there is one. A sign must be followed by one. -/
def skipOptionalZone : List Char → Option (List Char)
  | [] => some []
  | c :: rest =>
    if c = 'Z' ∨ c = 'z' then some rest
    else if c = '+' ∨ c = '-' then skipZone rest
    else some (c :: rest)

/-- Skip the time after a date, if there is one. -/
def skipTimeAfterDate (text : List Char) : Option (List Char) :=
  match text with
  | c :: rest =>
    if c = 'T' ∨ c = 't' ∨ c = ' ' then
      match skipTime rest with
      | some rest => skipOptionalZone rest
      | none => some text
    else some text
  | [] => some text

/-- Skip a moment. -/
def skipMoment (text : List Char) : Option (List Char) :=
  match skipDate text with
  | some rest => skipTimeAfterDate rest
  | none => skipTime text

/-- Read a moment. -/
def readMoment (text : List Char) : Option (Value × List Char) :=
  (skipMoment text).map fun rest =>
    (.moment (String.ofList (text.take (text.length - rest.length))), rest)

/-- Read a number or a moment. -/
def readNumeric (text : List Char) : Option (Value × List Char) :=
  (((readMoment text).or (readDecimal text)).or (readSpecial text)).or (readInteger text)

end QueryTail.Toml
