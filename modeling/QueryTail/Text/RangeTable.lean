/-!
# Tables of code point ranges

Sets of code points as ascending, disjoint ranges. In a module of data such a set is written as
hexadecimal numbers in pairs: the distance from the end of the range before, and the length of the
range less one. `decode` reads that form.
-/

namespace QueryTail.Text

/-- A set of code points, as ascending and disjoint ranges with both ends included. -/
structure RangeTable where
  ranges : Array (Nat × Nat)
  deriving DecidableEq, Repr

namespace RangeTable

/-- Look for the range that holds a code point between two positions. -/
def search (ranges : Array (Nat × Nat)) (code : Nat) : Nat → Nat → Nat → Bool
  | 0, _, _ => false
  | rounds + 1, low, high =>
    if low < high then
      let middle := (low + high) / 2
      match ranges[middle]? with
      | none => false
      | some (first, last) =>
        if code < first then search ranges code rounds low middle
        else if last < code then search ranges code rounds (middle + 1) high
        else true
    else
      false

/-- A code point belongs to the set. -/
def contains (table : RangeTable) (code : Nat) : Bool :=
  search table.ranges code (table.ranges.size + 1) 0 table.ranges.size

/-! ### Making sets -/

/-- The greatest code point. -/
def lastCode : Nat := 0x10FFFF

/-- No code point. -/
def empty : RangeTable := ⟨#[]⟩

/-- The code points from one to another; the first must not be greater than the last. -/
def range (first last : Nat) : RangeTable := ⟨#[(first, last)]⟩

/-- A single code point. -/
def single (c : Char) : RangeTable := range c.toNat c.toNat

/-- Join ranges that overlap or touch. The ranges come by ascending starts; the one in hand is not
put to the others before the next is known to lie apart. -/
def joinFrom (first last : Nat) (found : Array (Nat × Nat)) :
    List (Nat × Nat) → Array (Nat × Nat)
  | [] => found.push (first, last)
  | (nextFirst, nextLast) :: rest =>
    if nextFirst ≤ last + 1 then joinFrom first (max last nextLast) found rest
    else joinFrom nextFirst nextLast (found.push (first, last)) rest

/-- The set of ranges in any order, which may overlap. -/
def ofRanges (ranges : List (Nat × Nat)) : RangeTable :=
  match ranges.mergeSort fun left right => left.1 ≤ right.1 with
  | [] => empty
  | (first, last) :: rest => ⟨joinFrom first last #[] rest⟩

/-- The code points of any of some sets. -/
def unionAll (tables : List RangeTable) : RangeTable :=
  ofRanges (tables.flatMap fun table => table.ranges.toList)

/-- The code points of either set. -/
def union (left right : RangeTable) : RangeTable :=
  unionAll [left, right]

/-! ### Gaps and overlaps

Every end of a range is a character, and so is every end of a gap: the step from U+D7FF leads over
the surrogates to U+E000, and the step back leads from there to U+D7FF. -/

/-- The code point of the next character. -/
def next (code : Nat) : Nat :=
  if code = 0xD7FF then 0xE000 else code + 1

/-- The code point of the character before. -/
def previous (code : Nat) : Nat :=
  if code = 0xE000 then 0xD7FF else code - 1

/-- The gap between two code points, with both ends included. Between a range that ends at U+D7FF
and one that starts at U+E000 there are the surrogates only; that gap is taken from the first of the
two characters to the second. -/
def gap (first last : Nat) : Nat × Nat :=
  (min first last, max first last)

/-- The gaps between the ranges after one that ends at a code point, up to the last code point. -/
def gapsFrom (last : Nat) (found : Array (Nat × Nat)) : List (Nat × Nat) → Array (Nat × Nat)
  | [] => if last < lastCode then found.push (gap (next last) lastCode) else found
  | range :: rest => gapsFrom range.2 (found.push (gap (next last) (previous range.1))) rest

/-- The code points that do not belong to the set. -/
def complement (table : RangeTable) : RangeTable :=
  match table.ranges.toList with
  | [] => range 0 lastCode
  | first :: rest =>
    ⟨gapsFrom first.2 (if 0 < first.1 then #[(0, previous first.1)] else #[]) rest⟩

/-- The overlaps of two lists of ranges. Of the two ranges in hand the one that ends first is done
with; the bound is the number of ranges. -/
def overlaps (found : Array (Nat × Nat)) :
    Nat → List (Nat × Nat) → List (Nat × Nat) → Array (Nat × Nat)
  | rounds + 1, left :: lefts, right :: rights =>
    let first := max left.1 right.1
    let last := min left.2 right.2
    let found := if first ≤ last then found.push (first, last) else found
    if left.2 < right.2 then overlaps found rounds lefts (right :: rights)
    else overlaps found rounds (left :: lefts) rights
  | _, _, _ => found

/-- The code points of both sets. -/
def intersection (left right : RangeTable) : RangeTable :=
  ⟨overlaps #[] (left.ranges.size + right.ranges.size) left.ranges.toList right.ranges.toList⟩

/-- What a list of ranges takes away from another one. A range to be taken away is done with when it
ends before the range in hand; the bound is the number of ranges. -/
def remains (found : Array (Nat × Nat)) :
    Nat → List (Nat × Nat) → List (Nat × Nat) → Array (Nat × Nat)
  | rounds + 1, left :: lefts, right :: rights =>
    if right.2 < left.1 then remains found rounds (left :: lefts) rights
    else if left.2 < right.1 then remains (found.push left) rounds lefts (right :: rights)
    else
      let found := if left.1 < right.1 then found.push (left.1, previous right.1) else found
      if right.2 < left.2 then remains found rounds ((next right.2, left.2) :: lefts) rights
      else remains found rounds lefts (right :: rights)
  | _, lefts, _ => found ++ lefts

/-- The code points of the left set that do not belong to the right one. -/
def difference (left right : RangeTable) : RangeTable :=
  ⟨remains #[] (left.ranges.size + right.ranges.size) left.ranges.toList right.ranges.toList⟩

/-- The code points of exactly one of the sets. -/
def symmetricDifference (left right : RangeTable) : RangeTable :=
  (left.union right).difference (left.intersection right)

/-! ### Data -/

/-- The value of a lower-case hexadecimal digit. -/
def digitValue (c : Char) : Nat :=
  if c.isDigit then c.toNat - 48 else c.toNat - 87

/-- The numbers in a line, parted by spaces. -/
def numbers (line : String) : List Nat :=
  let (value, found) := line.toList.foldl
    (fun (value, found) c =>
      if c = ' ' then (0, value :: found) else (16 * value + digitValue c, found))
    (0, ([] : List Nat))
  (value :: found).reverse

/-- The ranges that distances and lengths describe, from a given end of the range before. -/
def ofDistances (last : Nat) (found : Array (Nat × Nat)) : List Nat → Array (Nat × Nat)
  | distance :: length :: rest =>
    let first := last + distance
    ofDistances (first + length) (found.push (first, first + length)) rest
  | _ => found

/-- The set that lines of data describe. -/
def decode (lines : List String) : RangeTable :=
  ⟨ofDistances 0 #[] (lines.flatMap numbers)⟩

end RangeTable

/-- One value of a property: its names in loose form, and its characters as data. -/
structure PropertyValue where
  names : List String
  lines : List String

end QueryTail.Text
