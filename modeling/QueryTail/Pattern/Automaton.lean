import Std.Data.HashMap
import QueryTail.Pattern.Basic
import QueryTail.Pattern.Encoding

/-!
# The memory of a pattern

A pattern is refused if the automata that search for it take too much memory: one that reads a text
forwards and keeps track of the groups, and one that reads it backwards and does not. An automaton
has 32 bytes for every state, and more for the states that branch: 4 for every link to a state that
is entered without reading a byte, 8 for every range of bytes that leads on.

`Node.plan` lays out the states of an automaton in the order in which they are numbered. A
repetition holds a copy of its body for every time that it must or may be repeated. Only the states
of a set of characters beyond ASCII depend on the numbers of other states, because states that lead
on in the same way are shared; all others are counted in one go.

A pattern that stands for a single short text needs no automata: it is searched for as it is.
-/

namespace QueryTail.Pattern

/-- What an automaton takes: its states, and the bytes of their links. -/
structure Tally where
  states : Nat
  links : Nat
  deriving DecidableEq, Repr

namespace Tally

/-- What two automata take together. -/
def add (left right : Tally) : Tally :=
  ⟨left.states + right.states, left.links + right.links⟩

/-- What a number of copies of an automaton take. -/
def times (count : Nat) (tally : Tally) : Tally :=
  ⟨count * tally.states, count * tally.links⟩

/-- The memory in bytes. -/
def bytes (tally : Tally) : Nat :=
  32 * tally.states + tally.links

end Tally

/-- The greatest memory of an automaton in bytes. -/
def maxMemory : Nat := 10485760

/-- The automaton takes too much memory. -/
def Tally.isOver (tally : Tally) : Bool :=
  maxMemory < tally.bytes

/-! ### Shared states -/

/-- A range of bytes and the number of the state to which it leads. -/
structure Edge where
  first : Nat
  last : Nat
  target : Nat
  deriving DecidableEq, Repr

/-- Mix a number into a hash: the Fowler-Noll-Vo hash of 64 bits, with whole numbers for bytes. -/
def mixed (hash : UInt64) (number : Nat) : UInt64 :=
  (hash ^^^ number.toUInt64) * 1099511628211

/-- The slot for some numbers in a table of the given size. -/
def slotOf (size : Nat) (numbers : List Nat) : Nat :=
  (numbers.foldl mixed 14695981039346656037).toNat % size

/-- A table of states that may be shared. Every slot remembers the last state that was put into it,
with what that state is known by; a state that another one has displaced is built again. -/
abbrev Shared (key : Type) := Std.HashMap Nat (key × Nat)

/-- The state in a slot, if it is known by the given key. -/
def Shared.find? {key : Type} [DecidableEq key] (shared : Shared key) (slot : Nat) (wanted : key) :
    Option Nat :=
  match shared[slot]? with
  | some (found, state) => if found = wanted then some state else none
  | none => none

/-- A set of characters is being laid out. -/
structure Layout (key : Type) where
  shared : Shared key
  tally : Tally

/-- How many slots the table for reading forwards has. -/
def forwardSlots : Nat := 10000

/-- How many slots the table for reading backwards has. -/
def backwardSlots : Nat := 1000

/-- The state from which some edges lead on. -/
def Layout.state (layout : Layout (List Edge)) (edges : List Edge) : Nat × Layout (List Edge) :=
  let slot := slotOf forwardSlots (edges.flatMap fun edge => [edge.first, edge.last, edge.target])
  match layout.shared.find? slot edges with
  | some state => (state, layout)
  | none =>
    let state := layout.tally.states
    (state, ⟨layout.shared.insert slot (edges, state), layout.tally.add ⟨1, 8 * edges.length⟩⟩)

/-- Lay out branches that read forwards and end at a target. The edges found so far come last
first. What is below a branch comes before the branch itself, so that equal ends are shared. -/
def Branches.edges (target : Nat) (found : List Edge) (layout : Layout (List Edge)) :
    Branches → List Edge × Layout (List Edge)
  | .none => (found.reverse, layout)
  | .branch first last .none others => others.edges target (⟨first, last, target⟩ :: found) layout
  | .branch first last below others =>
    let (inner, layout) := below.edges target [] layout
    let (state, layout) := layout.state inner
    others.edges target (⟨first, last, state⟩ :: found) layout

/-- Lay out a set of characters that is read forwards. -/
def forwardSet (branches : Branches) (tally : Tally) : Tally :=
  let (edges, layout) := branches.edges tally.states [] ⟨∅, tally.add ⟨1, 0⟩⟩
  (layout.state edges).2.tally

/-- Lay out one sequence of bytes that is read backwards, from the state that follows it. Each of
its states reads one range of bytes. -/
def backwardSequence (layout : Layout Edge) (target : Nat) :
    ByteRanges → Layout Edge
  | [] => { layout with tally := layout.tally.add ⟨0, 4⟩ }
  | (first, last) :: rest =>
    let slot := slotOf backwardSlots [target, first, last]
    match layout.shared.find? slot ⟨first, last, target⟩ with
    | some state => backwardSequence layout state rest
    | none =>
      let state := layout.tally.states
      backwardSequence
        ⟨layout.shared.insert slot (⟨first, last, target⟩, state), layout.tally.add ⟨1, 0⟩⟩
        state rest

/-- Lay out a set of characters that is read backwards. -/
def backwardSet (sequences : List ByteRanges) (tally : Tally) : Tally :=
  let target := tally.states + 1
  (sequences.foldl (fun layout ranges => backwardSequence layout target ranges)
    ⟨∅, tally.add ⟨2, 0⟩⟩).tally

/-! ### Plans -/

/-- The layout of an automaton. -/
inductive Plan where
  /-- States whose number depends on nothing else. -/
  | fixed (tally : Tally)
  /-- A set of characters that is read forwards. -/
  | forward (branches : Branches)
  /-- A set of characters that is read backwards. -/
  | backward (sequences : List ByteRanges)
  | both (first second : Plan)
  | copies (count : Nat) (body : Plan)

namespace Plan

/-- Some states with some bytes of links. -/
def counted (states links : Nat) : Plan := .fixed ⟨states, links⟩

/-- One plan after another. -/
def followedBy : Plan → Plan → Plan
  | .fixed first, .fixed second => .fixed (first.add second)
  | .both first (.fixed second), .fixed third => .both first (.fixed (second.add third))
  | first, second => .both first second

/-- Copies of a plan. -/
def repeated (count : Nat) : Plan → Plan
  | .fixed tally => .fixed (tally.times count)
  | body => .copies count body

/-- Apply a layout a number of times, but stop when there is too much. -/
def applied (layout : Tally → Tally) : Nat → Tally → Tally
  | 0, tally => tally
  | count + 1, tally => if tally.isOver then tally else applied layout count (layout tally)

/-- Lay out a plan after what there is. What comes after too much is not laid out any more. -/
def layOut : Plan → Tally → Tally
  | .fixed added, tally => tally.add added
  | .forward branches, tally => if tally.isOver then tally else forwardSet branches tally
  | .backward sequences, tally => if tally.isOver then tally else backwardSet sequences tally
  | .both first second, tally => second.layOut (first.layOut tally)
  | .copies count body, tally => applied body.layOut count tally

end Plan

/-- The direction in which a text is read. -/
inductive Direction where
  | forwards
  | backwards
  deriving DecidableEq, Repr

/-- One plan and the next in the order of the text. -/
def Direction.inOrder (direction : Direction) (first second : Plan) : Plan :=
  match direction with
  | .forwards => first.followedBy second
  | .backwards => second.followedBy first

/-- The plan for a set of characters. ASCII characters take two states. -/
def CharSet.plan (direction : Direction) (chars : CharSet) : Plan :=
  if chars.ranges.all fun range => range.2 < 0x80 then .counted 2 (8 * chars.ranges.size)
  else match direction with
    | .forwards => .forward (.ofSequences chars.sequences)
    | .backwards => .backward chars.sequences

namespace Continuations

/-- What the bytes between two marks take: nothing without bytes, and otherwise a state with a link
to it. A single byte needs no list of ranges. -/
def betweenMarks (count : Nat) : Tally :=
  if count = 0 then ⟨0, 0⟩ else if count = 1 then ⟨1, 4⟩ else ⟨1, 8 * count + 4⟩

/-- What some continuations take, after a number of bytes since the last mark. A byte after which no
text goes on leads to the end. -/
def tallyFrom (count : Nat) : Continuations → Tally
  | none => betweenMarks count
  | mark others => (betweenMarks count).add (Tally.add ⟨0, 4⟩ (others.tallyFrom 0))
  | byte _ after others =>
    let below : Tally := if after.isLeaf then ⟨0, 0⟩ else Tally.add ⟨1, 0⟩ (after.tallyFrom 0)
    below.add (others.tallyFrom (count + 1))

/-- What texts take that are read as one: a state where all of them end, and their bytes. -/
def tally (continuations : Continuations) : Tally :=
  Tally.add ⟨2, 0⟩ (continuations.tallyFrom 0)

end Continuations

/-- The place of a pattern among the alternatives of a choice. -/
inductive Place where
  | first
  | second
  | later
  deriving DecidableEq, Repr

namespace Place

/-- The place after a place. -/
def next : Place → Place
  | .first => .second
  | _ => .later

/-- What an alternative takes beside its own states. With the second one the choice itself is laid
out, a state that branches and one where the alternatives meet. -/
def joining : Place → Plan
  | .first => .counted 0 0
  | .second => .counted 2 8
  | .later => .counted 0 4

end Place

namespace Node

/-- The bytes of a literal, in the order in which they are read. -/
def bytes? (direction : Direction) : Node → Option (List Nat)
  | .literal text =>
    let bytes := (text.flatMap String.utf8EncodeChar).map UInt8.toNat
    some (if direction = .forwards then bytes else bytes.reverse)
  | _ => none

/-- The texts of a choice among literals. -/
def texts? (direction : Direction) : Node → Option (List (List Nat))
  | .choice first rest => do some ((← first.bytes? direction) :: (← rest.texts? direction))
  | node => (node.bytes? direction).map ([·])

/-- The plan for a pattern at some place among alternatives. -/
def planAt (direction : Direction) (place : Place) : Node → Plan
  | .empty => (Plan.counted 1 0).followedBy place.joining
  | .literal text =>
    (Plan.counted (text.foldl (fun total c => total + c.utf8Size) 0) 0).followedBy place.joining
  | .set chars _ => (chars.plan direction).followedBy place.joining
  | .look _ => (Plan.counted 1 0).followedBy place.joining
  | .group _ body =>
    let body := body.planAt direction .first
    let whole := match direction with
      | .forwards => ((Plan.counted 1 0).followedBy body).followedBy (.counted 1 0)
      | .backwards => body
    whole.followedBy place.joining
  | .sequence first rest =>
    (direction.inOrder (first.planAt direction .first) (rest.planAt direction .first)).followedBy
      place.joining
  | .choice first rest =>
    let texts := if place = .first then texts? direction (.choice first rest) else none
    match texts with
    | some texts => .fixed (Continuations.ofTexts texts).tally
    | none => (first.planAt direction place).followedBy (rest.planAt direction place.next)
  | .repetition body least most _ =>
    let once := body.planAt direction .first
    let optional := (Plan.counted 1 8).followedBy once
    let whole := match least, most with
      | 0, none =>
        if body.consumes then optional
        else once.followedBy (.counted 3 16)
      | least, none => (once.repeated least).followedBy (.counted 1 8)
      | 0, some 1 => optional.followedBy (.counted 1 0)
      | least, some most =>
        let start := if least = 0 then Plan.counted 1 0 else once.repeated least
        if least = most then start
        else (start.followedBy (.counted 1 0)).followedBy (optional.repeated (most - least))
    whole.followedBy place.joining

/-- What an automaton for a pattern takes in some direction. Before the pattern come the states that
skip text, unless the pattern can only match at the edge where reading starts; after it comes the
state that accepts. The match as a whole is a group too. -/
def tally (direction : Direction) (node : Node) : Tally :=
  let atEdge := match direction with
    | .forwards => node.startsWith .textStart
    | .backwards => node.endsWith .textEnd
  let start : Tally := if atEdge then ⟨1, 0⟩ else ⟨3, 16⟩
  let plan := planAt direction .first (.group 0 node)
  (plan.layOut start).add ⟨1, 0⟩

/-! ### Patterns without automata -/

/-- The greatest length in bytes of a text that is searched for without automata. -/
def maxPlainBytes : Nat := 100

/-- The greatest count of a repetition in such a text. -/
def maxPlainCount : Nat := 10

/-- Texts that are not too long. -/
def shortTexts (texts : List (List Char)) : Option (List (List Char)) :=
  if texts.all fun text => (text.foldl (fun total c => total + c.utf8Size) 0) ≤ maxPlainBytes then
    some texts
  else none

/-- The texts of one list followed by those of another one. -/
def followedTexts (first second : List (List Char)) : Option (List (List Char)) :=
  shortTexts (first.flatMap fun text => second.map (text ++ ·))

/-- A number of texts from a list, one after another. -/
def repeatedTexts (texts : List (List Char)) : Nat → Option (List (List Char))
  | 0 => some [[]]
  | count + 1 => do followedTexts (← repeatedTexts texts count) texts

/-- The texts of two lists, if there is not more than one. -/
def eitherText : List (List Char) → List (List Char) → Option (List (List Char))
  | [], right => some right
  | left, [] => some left
  | left, right => if left = right then some left else none

/-- The one text that a pattern stands for, or no text, if that shows without a search. Neither
groups nor conditions may be part of the pattern. -/
def plainTexts? : Node → Option (List (List Char))
  | .empty => some [[]]
  | .literal text => shortTexts [text]
  | .set chars _ => if chars.ranges.isEmpty then some [] else none
  | .look _ => none
  | .group _ _ => none
  | .sequence first rest => do followedTexts (← first.plainTexts?) (← rest.plainTexts?)
  | .choice first rest => do eitherText (← first.plainTexts?) (← rest.plainTexts?)
  | .repetition body least most _ => do
    let texts ← body.plainTexts?
    if least = 0 then if most = some 1 then eitherText texts [[]] else none
    else if most = some least ∧ least ≤ maxPlainCount then repeatedTexts texts least
    else none

/-- The pattern stands for a single text, which is searched for without automata. -/
def isPlain (node : Node) : Bool :=
  match node.plainTexts? with
  | some [text] => !text.isEmpty
  | _ => false

/-- The automata for a pattern fit into the memory that there is for them. -/
def fits (node : Node) : Bool :=
  node.isPlain || (!(node.tally .forwards).isOver && !(node.tally .backwards).isOver)

end Node

end QueryTail.Pattern
