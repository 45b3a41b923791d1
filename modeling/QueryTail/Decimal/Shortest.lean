import QueryTail.Text.Digits

/-!
# The shortest decimal of a binary fraction

A positive binary floating-point number stands for every real that rounds to it. Among the
decimals in that interval `shortest` picks one on the coarsest decimal grid, and of two on that
grid the nearer to the number itself. All comparisons are exact comparisons of natural numbers.

The module says nothing about how digits are laid out beyond `Layout`, which is a record of the
choices a format makes.
-/

namespace QueryTail.Decimal

/-- A positive number `significand * 2 ^ exponent`, as stored in a binary format. `atBoundary`
holds when the next smaller number is only half as far away as the next greater one. -/
structure Binary where
  significand : Nat
  exponent : Int
  atBoundary : Bool
  deriving DecidableEq, Repr

/-- A decimal `coefficient * 10 ^ exponent`. -/
structure Scaled where
  coefficient : Nat
  exponent : Int
  deriving DecidableEq, Repr

/-- A fraction of natural numbers. -/
structure Ratio where
  numerator : Nat
  denominator : Nat
  deriving DecidableEq, Repr

namespace Ratio

/-- `count * base ^ exponent` as a fraction. -/
def ofPower (count base : Nat) (exponent : Int) : Ratio :=
  if 0 ≤ exponent then ⟨count * Nat.pow base exponent.toNat, 1⟩
  else ⟨count, Nat.pow base (-exponent).toNat⟩

/-- The left fraction is less than the right one. -/
def less (left right : Ratio) : Bool :=
  left.numerator * right.denominator < right.numerator * left.denominator

/-- The distance between two fractions. -/
def distance (left right : Ratio) : Ratio :=
  let first := left.numerator * right.denominator
  let second := right.numerator * left.denominator
  ⟨max first second - min first second, left.denominator * right.denominator⟩

/-- The whole part of `ratio / 10 ^ exponent`. -/
def floorAt (ratio : Ratio) (exponent : Int) : Nat :=
  let step := ofPower 1 10 exponent
  ratio.numerator * step.denominator / (ratio.denominator * step.numerator)

end Ratio

namespace Binary

/-- The number itself, as a count of quarter units in the last place. -/
def value (number : Binary) : Ratio :=
  .ofPower (4 * number.significand) 2 (number.exponent - 2)

/-- The lower end of the interval that rounds to the number. -/
def lower (number : Binary) : Ratio :=
  .ofPower (4 * number.significand - if number.atBoundary then 1 else 2) 2 (number.exponent - 2)

/-- The upper end of the interval that rounds to the number. -/
def upper (number : Binary) : Ratio :=
  .ofPower (4 * number.significand + 2) 2 (number.exponent - 2)

/-- A decimal lies in the interval; the ends belong to it when the significand is even. -/
def accepts (number : Binary) (candidate : Scaled) : Bool :=
  let point := Ratio.ofPower candidate.coefficient 10 candidate.exponent
  if number.significand % 2 == 0 then
    !point.less number.lower && !number.upper.less point
  else
    number.lower.less point && point.less number.upper

/-- The decimal of a grid that stands for the number, if any: of its two neighbours on the grid
the one in the interval, and of two the nearer, the even one on a tie. -/
def onGrid (number : Binary) (exponent : Int) : Option Scaled :=
  let below : Scaled := ⟨number.value.floorAt exponent, exponent⟩
  let above : Scaled := ⟨below.coefficient + 1, exponent⟩
  match number.accepts below, number.accepts above with
  | false, false => none
  | true, false => some below
  | false, true => some above
  | true, true =>
    let left := number.value.distance (.ofPower below.coefficient 10 exponent)
    let right := number.value.distance (.ofPower above.coefficient 10 exponent)
    if left.less right then some below
    else if right.less left then some above
    else if below.coefficient % 2 == 0 then some below else some above

/-- The first hit on grids of falling exponent, trying `count` of them. -/
def firstOnGrids (number : Binary) (exponent : Int) : Nat → Scaled
  | 0 => ⟨number.value.floorAt exponent, exponent⟩
  | count + 1 => (number.onGrid exponent).getD (number.firstOnGrids (exponent - 1) count)

/-- A decimal exponent whose power of ten exceeds the number. -/
def gridAbove (number : Binary) : Int :=
  ((number.significand.log2 : Int) + number.exponent + 1) * 30103 / 100000 + 1

/-- The shortest decimal that rounds to the number. Twenty grids reach below the distance between
neighbours of a number with at most 64 significant bits. -/
def shortest (number : Binary) : Scaled :=
  number.firstOnGrids number.gridAbove 20

end Binary

/-- How a format lays out digits: decimals whose first digit stands at a power of ten between the
two bounds are written in full, all others with an exponent. -/
structure Layout where
  leastPlain : Int
  greatestPlain : Int
  deriving DecidableEq, Repr

namespace Layout

/-- A decimal written in full, with at least one digit on each side of the point. -/
def plain (digits : List Char) (exponent : Int) : List Char :=
  let whole := (exponent + digits.length).toNat
  if 0 ≤ exponent then
    digits ++ List.replicate exponent.toNat '0' ++ ['.', '0']
  else if 0 < exponent + digits.length then
    digits.take whole ++ '.' :: digits.drop whole
  else
    '0' :: '.' :: List.replicate (-(exponent + digits.length)).toNat '0' ++ digits

/-- A decimal written with an exponent, whose sign is always shown. -/
def scientific (digits : List Char) (power : Int) : List Char :=
  let mantissa := match digits with
    | first :: second :: rest => first :: '.' :: second :: rest
    | digits => digits
  mantissa ++ 'e' :: (if power < 0 then '-' else '+') :: Text.digits power.natAbs

/-- The written form of a positive decimal. -/
def render (layout : Layout) (decimal : Scaled) : List Char :=
  let digits := Text.digits decimal.coefficient
  let power := decimal.exponent + digits.length - 1
  if layout.leastPlain ≤ power ∧ power ≤ layout.greatestPlain then
    plain digits decimal.exponent
  else
    scientific digits power

end Layout

/-- The least number with more bits than the fraction of a double. -/
def fractionSize : Nat := 4503599627370496

/-- The least number with more bits than the exponent of a double. -/
def exponentSize : Nat := 2048

/-- The parts of a finite double: its sign and, unless it is zero, its magnitude. -/
def parts (number : Float) : Bool × Option Binary :=
  let bits : Nat := number.toBits.toNat
  let negative := bits / (fractionSize * exponentSize) == 1
  let biased : Nat := bits / fractionSize % exponentSize
  let fraction : Nat := bits % fractionSize
  if biased == 0 then
    (negative, if fraction == 0 then none else some ⟨fraction, -1074, false⟩)
  else
    (negative, some ⟨fraction + fractionSize, (biased : Int) - 1075, fraction == 0 && biased != 1⟩)

/-- The written form of a finite double in a layout; zero is written with one fraction digit. -/
def text (layout : Layout) (number : Float) : List Char :=
  let (negative, magnitude) := parts number
  let body := match magnitude with
    | none => ['0', '.', '0']
    | some magnitude => layout.render magnitude.shortest
  if negative then '-' :: body else body

end QueryTail.Decimal
