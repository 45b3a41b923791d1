import QueryTail.Pattern.CharSet

/-!
# Encoded characters

An automaton reads bytes, not characters. So it recognises a set of characters by the sequences of
bytes that their encodings make up, and several texts by the bytes that they have in common at the
start. Both are kept as branches: ranges of bytes side by side, each with the branches below it.
-/

namespace QueryTail.Pattern

/-- Ranges of bytes, one for each byte of an encoded character. -/
abbrev ByteRanges := List (Nat × Nat)

/-- The sequences of bytes of the code points between two numbers that are written with the given
number of bytes after the first. The first byte starts with `lead`, the others with `0x80`. -/
def sequencesFrom (lead : Nat) : Nat → Nat → Nat → List ByteRanges
  | 0, first, last => [[(lead + first, lead + last)]]
  | rest + 1, first, last =>
    let unit := Nat.pow 64 (rest + 1)
    let low := first / unit
    let high := last / unit
    let full : ByteRanges := List.replicate (rest + 1) (0x80, 0xBF)
    if low = high then
      (sequencesFrom 0x80 rest (first % unit) (last % unit)).map ((lead + low, lead + low) :: ·)
    else
      let cutsFirst := first % unit != 0
      let cutsLast := last % unit != unit - 1
      let head := if cutsFirst then
        (sequencesFrom 0x80 rest (first % unit) (unit - 1)).map ((lead + low, lead + low) :: ·)
        else []
      let tail := if cutsLast then
        (sequencesFrom 0x80 rest 0 (last % unit)).map ((lead + high, lead + high) :: ·)
        else []
      let low := if cutsFirst then low + 1 else low
      let high := if cutsLast then high - 1 else high
      let middle := if low ≤ high then [(lead + low, lead + high) :: full] else []
      head ++ middle ++ tail

/-- The parts of the code points that are encoded in one way: where each part starts and ends, the
start of the first byte, and the number of the other bytes. -/
def encodings : List (Nat × Nat × Nat × Nat) :=
  [ (0, 0x7F, 0, 0), (0x80, 0x7FF, 0xC0, 1), (0x800, 0xD7FF, 0xE0, 2), (0xE000, 0xFFFF, 0xE0, 2),
    (0x10000, 0x10FFFF, 0xF0, 3) ]

/-- The sequences of bytes of the characters of a range, in ascending order. -/
def sequencesOf (range : Nat × Nat) : List ByteRanges :=
  encodings.flatMap fun (least, greatest, lead, rest) =>
    let first := max least range.1
    let last := min greatest range.2
    if first ≤ last then sequencesFrom lead rest first last else []

/-- The sequences of bytes of the characters of a set, in ascending order. -/
def CharSet.sequences (chars : CharSet) : List ByteRanges :=
  chars.ranges.toList.flatMap sequencesOf

/-- Branches side by side: a range of bytes with the branches below it, and the others. Below the
last byte of a sequence there are none. -/
inductive Branches where
  | none
  | branch (first last : Nat) (below others : Branches)

namespace Branches

/-- The branches of a single sequence of bytes. -/
def ofSequence : ByteRanges → Branches
  | [] => none
  | (first, last) :: rest => branch first last (ofSequence rest) none

/-- Put a sequence of bytes in front. It shares ranges with the first branch only. -/
def insertFirst : ByteRanges → Branches → Branches
  | (first, last) :: rest, branch nextFirst nextLast below others =>
    if first = nextFirst ∧ last = nextLast then
      branch first last (insertFirst rest below) others
    else branch first last (ofSequence rest) (branch nextFirst nextLast below others)
  | ranges, _ => ofSequence ranges

/-- The branches of sequences of bytes in ascending order. -/
def ofSequences (sequences : List ByteRanges) : Branches :=
  sequences.foldr insertFirst none

end Branches

/-! ### Several texts -/

/-- The bytes by which one of several texts may go on. A byte comes with what may follow it, and a
mark tells that a text may end. What stands in front of a mark was put in after the text that it
stands for, and what stands behind it before. -/
inductive Continuations where
  | none
  | byte (value : Nat) (after others : Continuations)
  | mark (others : Continuations)

namespace Continuations

/-- No text goes on. -/
def isLeaf : Continuations → Bool
  | none => true
  | byte _ _ _ => false
  | mark others => others.isLeaf

/-- The continuations of a single text. -/
def ofBytes : List Nat → Continuations
  | [] => mark none
  | value :: rest => byte value (ofBytes rest) none

/-- Add a text. It shares bytes only with what stands in front of the first mark, so the order of
the texts is kept where one of them starts with another. A second mark on a leaf adds nothing. -/
def insert (bytes : List Nat) : Continuations → Continuations
  | none => ofBytes bytes
  | mark others =>
    match bytes with
    | [] => if others.isLeaf then mark others else mark (mark others)
    | value :: rest => byte value (ofBytes rest) (mark others)
  | byte next after others =>
    match bytes with
    | [] => mark (byte next after others)
    | value :: rest =>
      if value = next then byte next (after.insert rest) others
      else byte next after (others.insert (value :: rest))

/-- The continuations of some texts. -/
def ofTexts (texts : List (List Nat)) : Continuations :=
  texts.foldl (fun found bytes => found.insert bytes) none

end Continuations

end QueryTail.Pattern
