import QueryTail.Decimal.Shortest
import QueryTail.Json.Basic

/-!
# The text of JSON numbers

Reading keeps a whole number that fits 64 bits exactly. Every other number becomes a double: its
leading digits are collected in a 64-bit word for as long as they fit, and the word is multiplied
or divided by a power of ten in double arithmetic. This is not always the nearest double, but it
is the reading that this format promises. A number too great for a double is refused; one too
small becomes zero.

Writing uses the shortest digits that read back to the nearest double.
-/

namespace QueryTail.Json

open Text

/-- A number as written, split into its parts. -/
structure Numeral where
  negative : Bool
  whole : List Char
  fraction : Option (List Char)
  exponent : Option Int
  deriving DecidableEq, Repr

namespace Numeral

/-- Read the whole part: a single zero, or digits of which the first is not zero. -/
def readWhole (text : List Char) : Option (List Char × List Char) :=
  match spanDigits text with
  | ([], _) => none
  | (['0'], rest) => some (['0'], rest)
  | ('0' :: _, _) => none
  | (found, rest) => some (found, rest)

/-- Read the fraction, if a point announces one; the point needs a digit after it. -/
def readFraction : List Char → Option (Option (List Char) × List Char)
  | '.' :: rest =>
    match spanDigits rest with
    | ([], _) => none
    | (found, rest) => some (some found, rest)
  | text => some (none, text)

/-- Read the digits of an exponent. -/
def readPower (negative : Bool) (text : List Char) : Option (Option Int × List Char) :=
  match spanDigits text with
  | ([], _) => none
  | (found, rest) =>
    let power : Int := digitsValue found
    some (some (if negative then -power else power), rest)

/-- Read the exponent, if `e` or `E` announces one. -/
def readExponent : List Char → Option (Option Int × List Char)
  | c :: rest =>
    if c = 'e' ∨ c = 'E' then
      match rest with
      | '+' :: rest => readPower false rest
      | '-' :: rest => readPower true rest
      | rest => readPower false rest
    else some (none, c :: rest)
  | [] => some (none, [])

/-- Read a number by the JSON grammar. -/
def read (text : List Char) : Option (Numeral × List Char) := do
  let (negative, text) := match text with
    | '-' :: rest => (true, rest)
    | text => (false, text)
  let (whole, text) ← readWhole text
  let (fraction, text) ← readFraction text
  let (exponent, text) ← readExponent text
  some (⟨negative, whole, fraction, exponent⟩, text)

/-- The greatest value of a 64-bit word. -/
def maxWord : Nat := 18446744073709551615

/-- Append digits to a word for as long as it fits 64 bits; the digits that did not fit remain. -/
def collect (word : Nat) : List Char → Nat × List Char
  | [] => (word, [])
  | c :: rest =>
    let next := 10 * word + (c.toNat - 48)
    if next ≤ maxWord then collect next rest else (word, c :: rest)

/-- `word * 10 ^ exponent` in double arithmetic, or nothing if it exceeds every double. -/
def scale (word : Nat) (exponent : Int) : Option Float :=
  let start := word.toUInt64.toFloat
  let powerOfTen (power : Nat) : Float := Float.ofScientific 1 false power
  if word = 0 then some 0.0
  else if 308 < exponent then none
  else if 0 ≤ exponent then
    let product := start * powerOfTen exponent.toNat
    if product.isInf then none else some product
  else if -308 ≤ exponent then some (start / powerOfTen (-exponent).toNat)
  else if -616 ≤ exponent then some (start / powerOfTen 308 / powerOfTen (-exponent - 308).toNat)
  else some 0.0

/-- The value of a number as a double. -/
def toReal (numeral : Numeral) : Option Float :=
  let (word, skipped) := collect 0 numeral.whole
  let fraction := numeral.fraction.getD []
  let (word, unread) := collect word fraction
  let exponent := (skipped.length : Int) - (fraction.length - unread.length : Nat)
  (scale word (exponent + numeral.exponent.getD 0)).map fun magnitude =>
    if numeral.negative then -magnitude else magnitude

/-- The value of a number. It is whole if it is written without fraction and exponent and lies
between `-2 ^ 63` and `2 ^ 64 - 1`; a negative zero is a double. -/
def value (numeral : Numeral) : Option Number :=
  let magnitude := digitsValue numeral.whole
  let isWhole := numeral.fraction.isNone && numeral.exponent.isNone &&
    if numeral.negative then magnitude != 0 && magnitude ≤ 9223372036854775808 else magnitude ≤ maxWord
  if isWhole then
    some (.integer (if numeral.negative then -(magnitude : Int) else magnitude))
  else
    numeral.toReal.map .real

end Numeral

namespace Number

/-- JSON writes a double in full when its first digit stands between the fifth place after the
point and the sixteenth before it. -/
def layout : Decimal.Layout := ⟨-5, 15⟩

/-- The text of a number. -/
def text : Number → List Char
  | .integer value => if value < 0 then '-' :: digits value.natAbs else digits value.natAbs
  | .real value => Decimal.text layout value

end Number

end QueryTail.Json
