import QueryTail.Pattern.Basic

/-!
# Matching

A pattern is matched by sets of positions. A set is a natural number whose bit `i` tells whether
position `i` belongs to it; a text of `n` characters has the positions `0` to `n`. `Step.reach` maps
the positions at which a match may start to those at which one may end. All starts are followed at
once, so nothing is ever tried twice and no pattern takes exponential time.
-/

namespace QueryTail.Pattern

/-- A pattern laid over a text: every character set has become the set of positions in front of one
of its characters, every condition the set of positions that meet it. -/
inductive Step where
  | stay
  | advance (before : Nat)
  | check (positions : Nat)
  | sequence (first second : Step)
  | choice (first second : Step)
  | repetition (body : Step) (least : Nat) (most : Option Nat)

/-- The set of the positions at which a list says true. -/
def positionsOf (flags : List Bool) : Nat :=
  flags.foldr (fun flag rest => 2 * rest + flag.toNat) 0

/-- The characters before and after each position of a text. -/
def surroundings (before : Option Char) : List Char → List (Option Char × Option Char)
  | [] => [(before, none)]
  | c :: rest => (before, some c) :: surroundings (some c) rest

namespace Look

/-- A character is there and belongs to words. -/
def isWord (unicode : Bool) : Option Char → Bool
  | none => false
  | some c =>
    if unicode then Text.Property.wordCharacters.contains c.toNat
    else CharSet.asciiWord.contains c.toNat

/-- A position with the given characters before and after it meets the condition. -/
def holds (look : Look) (before after : Option Char) : Bool :=
  match look with
  | .textStart => before.isNone
  | .textEnd => after.isNone
  | .lineStart false => before.isNone || before == some '\n'
  | .lineEnd false => after.isNone || after == some '\n'
  | .lineStart true =>
    before.isNone || before == some '\n' || (before == some '\r' && after != some '\n')
  | .lineEnd true =>
    after.isNone || after == some '\r' || (after == some '\n' && before != some '\r')
  | .boundary unicode => isWord unicode before != isWord unicode after
  | .notBoundary unicode => isWord unicode before == isWord unicode after
  | .wordStart unicode => !isWord unicode before && isWord unicode after
  | .wordEnd unicode => isWord unicode before && !isWord unicode after
  | .wordStartHalf unicode => !isWord unicode before
  | .wordEndHalf unicode => !isWord unicode after

end Look

/-- Lay a pattern over a text. -/
def Node.over (text : List Char) : Node → Step
  | .empty => .stay
  | .literal wanted =>
    wanted.foldr
      (fun c rest => .sequence (.advance (positionsOf (text.map fun found => found == c))) rest)
      .stay
  | .set chars _ => .advance (positionsOf (text.map fun c => chars.contains c.toNat))
  | .look condition =>
    .check <| positionsOf <|
      (surroundings none text).map fun sides => condition.holds sides.1 sides.2
  | .group _ body => body.over text
  | .sequence first rest => .sequence (first.over text) (rest.over text)
  | .choice first rest => .choice (first.over text) (rest.over text)
  | .repetition body least most _ => .repetition (body.over text) least most

/-- Apply a map of sets a number of times; a set that does not change is not mapped again. -/
def iterate (map : Nat → Nat) : Nat → Nat → Nat
  | 0, positions => positions
  | rounds + 1, positions =>
    let next := map positions
    if next = positions then positions else iterate map rounds next

namespace Step

/-- The positions at which matches end that start at one of the given positions, in a text that
has the given number of positions. -/
def reach (count : Nat) : Step → Nat → Nat
  | .stay, positions => positions
  | .advance before, positions => (positions &&& before) <<< 1
  | .check allowed, positions => positions &&& allowed
  | .sequence first second, positions => second.reach count (first.reach count positions)
  | .choice first second, positions => first.reach count positions ||| second.reach count positions
  | .repetition body least most, positions =>
    let once := iterate (body.reach count) least positions
    let more := match most with
      | none => count
      | some most => most - least
    iterate (fun held => held ||| body.reach count held) more once

end Step

/-- The pattern matches some part of the text. -/
def Node.occursIn (node : Node) (text : List Char) : Bool :=
  let count := text.length + 1
  (node.over text).reach count (Nat.pow 2 count - 1) != 0

end QueryTail.Pattern
