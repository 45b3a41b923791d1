import Std.Data.HashSet
import QueryTail.Text.Lowercase
import QueryTail.Text.Property

/-!
# Sets of characters in patterns

A set of characters is kept as a table of ranges. Closing a set under letter case adds every
character that differs from a member in case only.
-/

namespace QueryTail.Pattern

open Text

/-- A set of characters. -/
abbrev CharSet := RangeTable

namespace CharSet

/-- The set of ranges of characters. -/
def ofChars (ranges : List (Char × Char)) : CharSet :=
  .ofRanges (ranges.map fun range => (range.1.toNat, range.2.toNat))

/-! ### Letter case -/

/-- The code points that a run maps, each with the code point that it is mapped to. -/
def pairsOf (run : CaseTable.Run) : List (Nat × Nat) :=
  (List.range ((run.last - run.first) / run.step + 1)).map fun index =>
    (run.first + index * run.step, run.target + index * run.step)

/-- The code points that case folding changes, each with its folded form. -/
def foldingPairs : List (Nat × Nat) :=
  CaseTable.folding.flatMap pairsOf

/-- The capital letters of ASCII, each with its small form. -/
def asciiPairs : List (Nat × Nat) :=
  pairsOf ⟨0x41, 0x5A, 1, 0x61⟩

/-- The set closed under letter case, of ASCII letters only or of all. A folded form that belongs to
the set, or that a member has, brings in all code points with that form. -/
def closed (asciiOnly : Bool) (set : CharSet) : CharSet :=
  let pairs := if asciiOnly then asciiPairs else foldingPairs
  let forms := Std.HashSet.ofList <| pairs.filterMap fun (code, form) =>
    if set.contains code || set.contains form then some form else none
  let added := pairs.filter fun pair => forms.contains pair.2
  if added.isEmpty then set
  else .ofRanges (set.ranges.toList ++ added.flatMap fun (code, form) => [(code, code), (form, form)])

/-! ### Classes -/

/-- The digits 0 to 9. -/
def asciiDigits : CharSet := ofChars [('0', '9')]

/-- The blanks of ASCII. -/
def asciiBlanks : CharSet := ofChars [('\t', '\r'), (' ', ' ')]

/-- The letters, digits and underscore of ASCII. -/
def asciiWord : CharSet := ofChars [('0', '9'), ('A', 'Z'), ('_', '_'), ('a', 'z')]

/-- The class that a name between `[:` and `:]` stands for. -/
def ofClassName? (name : String) : Option CharSet :=
  match name with
  | "alnum" => some (ofChars [('0', '9'), ('A', 'Z'), ('a', 'z')])
  | "alpha" => some (ofChars [('A', 'Z'), ('a', 'z')])
  | "ascii" => some (ofChars [('\x00', '\x7f')])
  | "blank" => some (ofChars [('\t', '\t'), (' ', ' ')])
  | "cntrl" => some (ofChars [('\x00', '\x1f'), ('\x7f', '\x7f')])
  | "digit" => some asciiDigits
  | "graph" => some (ofChars [('!', '~')])
  | "lower" => some (ofChars [('a', 'z')])
  | "print" => some (ofChars [(' ', '~')])
  | "punct" => some (ofChars [('!', '/'), (':', '@'), ('[', '\x60'), ('\x7b', '~')])
  | "space" => some asciiBlanks
  | "upper" => some (ofChars [('A', 'Z')])
  | "word" => some asciiWord
  | "xdigit" => some (ofChars [('0', '9'), ('A', 'F'), ('a', 'f')])
  | _ => none

end CharSet

end QueryTail.Pattern
