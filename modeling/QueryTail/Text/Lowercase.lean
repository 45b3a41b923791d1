import QueryTail.Text.CaseTable

/-!
# Lower case

The full lower-case form of a text. Characters are mapped one by one but for the capital sigma,
whose form depends on where in its word it stands, and the dotted capital I, which becomes two
characters. So the lower-case form of a part of a text need not be a part of its lower-case form.
-/

namespace QueryTail.Text

namespace CaseTable.Run

/-- The code point that a run maps a code point to. -/
def map? (run : Run) (code : Nat) : Option Nat :=
  if run.first ≤ code ∧ code ≤ run.last ∧ (code - run.first) % run.step = 0 then
    some (code - run.first + run.target)
  else
    none

end CaseTable.Run

/-- A code point lies in one of the ranges. -/
def inRanges (ranges : List (Nat × Nat)) (code : Nat) : Bool :=
  ranges.any fun range => range.1 ≤ code && code ≤ range.2

/-- The lower-case letter of a character that has a single one, and otherwise the character. -/
def simpleLowercase (c : Char) : Char :=
  if c.toNat < 0x80 then c.toLower
  else match CaseTable.lowercase.findSome? (·.map? c.toNat) with
    | some code => Char.ofNat code
    | none => c

/-- The first character that is not ignored in questions of case is a letter with case. -/
def startsCased (text : List Char) : Bool :=
  match text.dropWhile fun c => inRanges CaseTable.caseIgnorable c.toNat with
  | c :: _ => inRanges CaseTable.cased c.toNat
  | [] => false

/-- Put the lower-case form of a text in front of what is found so far. Both what is found and the
characters already read are kept last character first. -/
def lowercaseFrom (found read : List Char) : List Char → List Char
  | [] => found.reverse
  | c :: rest =>
    let next :=
      if c = 'Σ' then
        (if startsCased read && !startsCased rest then 'ς' else 'σ') :: found
      else if c = 'İ' then '\u0307' :: 'i' :: found
      else simpleLowercase c :: found
    lowercaseFrom next (c :: read) rest

/-- The lower-case form of a text. -/
def lowercase (text : List Char) : List Char :=
  lowercaseFrom [] [] text

/-- The lower-case form of a string. -/
def lowered (text : String) : String :=
  String.ofList (lowercase text.toList)

@[simp] theorem lowercase_nil : lowercase [] = [] := rfl

end QueryTail.Text
