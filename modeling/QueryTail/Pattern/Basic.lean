import QueryTail.Pattern.CharSet

/-!
# Patterns

The expressions that a search pattern denotes. Only the question whether a pattern occurs in a text
is ever asked, for which neither groups nor the greed of repetitions matter; both are kept because
the memory that a pattern takes depends on them.

Patterns are built in a simplified form. A sequence leads from a part that is no sequence to a rest
that is none but the last part, and a choice likewise; neighbouring literals are one, a set of one
character is a literal, and alternatives that begin alike share what they begin with.
-/

namespace QueryTail.Pattern

/-- A condition on a position between characters. -/
inductive Look where
  | textStart
  | textEnd
  | lineStart (carriageReturns : Bool)
  | lineEnd (carriageReturns : Bool)
  /-- The characters on the two sides differ in being word characters. -/
  | boundary (unicode : Bool)
  | notBoundary (unicode : Bool)
  | wordStart (unicode : Bool)
  | wordEnd (unicode : Bool)
  /-- No word character stands before the position. -/
  | wordStartHalf (unicode : Bool)
  /-- No word character stands after the position. -/
  | wordEndHalf (unicode : Bool)
  deriving DecidableEq, Repr

/-- A pattern. -/
inductive Node where
  | empty
  | literal (text : List Char)
  /-- A character of a set. Sets that were written for bytes are told apart from others. -/
  | set (chars : CharSet) (forBytes : Bool)
  | look (look : Look)
  /-- A group that is numbered. -/
  | group (index : Nat) (body : Node)
  | sequence (first rest : Node)
  | choice (first rest : Node)
  /-- The pattern repeated at least `least` times, and at most `most` times if that is given. -/
  | repetition (body : Node) (least : Nat) (most : Option Nat) (greedy : Bool)
  deriving DecidableEq

namespace Node

/-! ### What a pattern may match -/

/-- The pattern can only match the empty text. A set without characters matches nothing at all and
does not count. -/
def matchesOnlyEmpty : Node → Bool
  | .empty => true
  | .literal _ => false
  | .set _ _ => false
  | .look _ => true
  | .group _ body => body.matchesOnlyEmpty
  | .sequence first rest => first.matchesOnlyEmpty && rest.matchesOnlyEmpty
  | .choice first rest => first.matchesOnlyEmpty && rest.matchesOnlyEmpty
  | .repetition body _ _ _ => body.matchesOnlyEmpty

/-- The number of characters of the shortest match. There is none where a set without characters is
met. -/
def shortest : Node → Option Nat
  | .empty => some 0
  | .literal text => some text.length
  | .set chars _ => if chars.ranges.isEmpty then none else some 1
  | .look _ => some 0
  | .group _ body => body.shortest
  | .sequence first rest => do some ((← first.shortest) + (← rest.shortest))
  | .choice first rest => do some (min (← first.shortest) (← rest.shortest))
  | .repetition body least _ _ => body.shortest.map (· * least)

/-- No match of the pattern is empty. -/
def consumes (node : Node) : Bool :=
  node.shortest.any (0 < ·)

/-- Every match starts at a position that meets a condition, as far as the parts tell that come
before the first part that may match characters. -/
def startsWith (condition : Look) : Node → Bool
  | .empty => false
  | .literal _ => false
  | .set _ _ => false
  | .look held => held == condition
  | .group _ body => body.startsWith condition
  | .sequence first rest =>
    first.startsWith condition || (first.matchesOnlyEmpty && rest.startsWith condition)
  | .choice first rest => first.startsWith condition && rest.startsWith condition
  | .repetition body least _ _ => 0 < least && body.startsWith condition

/-- Every match ends at a position that meets a condition, as far as the parts tell that come after
the last part that may match characters. -/
def endsWith (condition : Look) : Node → Bool
  | .empty => false
  | .literal _ => false
  | .set _ _ => false
  | .look held => held == condition
  | .group _ body => body.endsWith condition
  | .sequence first rest =>
    rest.endsWith condition || (rest.matchesOnlyEmpty && first.endsWith condition)
  | .choice first rest => first.endsWith condition && rest.endsWith condition
  | .repetition body least _ _ => 0 < least && body.endsWith condition

/-! ### Building patterns -/

/-- No text matches. -/
def nothing : Node := .set .empty false

/-- A pattern for a character of a set. -/
def ofSet (forBytes : Bool) (chars : CharSet) : Node :=
  match chars.ranges.toList with
  | [] => nothing
  | [(first, last)] => if first = last then .literal [Char.ofNat first] else .set chars forBytes
  | _ => .set chars forBytes

/-- The parts of a sequence; any other pattern is its only part, and the empty pattern has none. -/
def parts : Node → List Node
  | .empty => []
  | .sequence first rest => first :: rest.parts
  | node => [node]

/-- The sequence of some parts. -/
def ofParts : List Node → Node
  | [] => .empty
  | [node] => node
  | node :: rest => .sequence node (ofParts rest)

/-- Put a part in front of others. Two literals become one. -/
def joinPart (node : Node) (rest : List Node) : List Node :=
  match node, rest with
  | .literal before, .literal after :: rest => .literal (before ++ after) :: rest
  | node, rest => node :: rest

/-- Patterns one after another. -/
def sequenceAll (nodes : List Node) : Node :=
  ofParts ((nodes.flatMap parts).foldr joinPart [])

/-- The alternatives of a choice; any other pattern is its only alternative. -/
def alternatives : Node → List Node
  | .choice first rest => first :: rest.alternatives
  | node => [node]

/-- The choice of some alternatives. Without alternatives nothing matches. -/
def ofAlternatives : List Node → Node
  | [] => nothing
  | [node] => node
  | node :: rest => .choice node (ofAlternatives rest)

/-- The character of a literal of one character. -/
def character? : Node → Option Char
  | .literal [c] => some c
  | _ => none

/-- The characters of a set. -/
def characters? : Node → Option CharSet
  | .set chars _ => some chars
  | _ => none

/-- The set that alternatives form which are all characters, or all sets. -/
def oneSet? (nodes : List Node) : Option CharSet :=
  (nodes.mapM character?).map (fun chars => .unionAll (chars.map .single)) <|>
    (nodes.mapM characters?).map .unionAll

/-- The parts of a sequence of at least two parts. -/
def sequenceParts? : Node → Option (List Node)
  | .sequence first rest => some (first :: rest.parts)
  | _ => none

/-- The parts that two lists have in common at their start. -/
def commonStart : List Node → List Node → List Node
  | left :: lefts, right :: rights => if left = right then left :: commonStart lefts rights else []
  | _, _ => []

/-- How many parts a pattern has, and the parts of these. -/
def size : Node → Nat
  | .group _ body => body.size + 1
  | .sequence first rest => first.size + rest.size + 1
  | .choice first rest => first.size + rest.size + 1
  | .repetition body _ _ _ => body.size + 1
  | _ => 1

/-- A choice of patterns. Characters or sets become one set. Where all alternatives are sequences
with a common start, the choice is made after that; what remains then is smaller, so the sizes of
the alternatives bound the number of rounds. -/
def choiceWithin : Nat → List Node → Node
  | 0, nodes => ofAlternatives nodes
  | rounds + 1, nodes =>
    let nodes := nodes.flatMap alternatives
    match nodes with
    | [node] => node
    | _ =>
      match oneSet? nodes with
      | some chars => ofSet false chars
      | none =>
        match nodes.mapM sequenceParts? with
        | some (first :: rest) =>
          match rest.foldl commonStart first with
          | [] => ofAlternatives nodes
          | start =>
            let ends := (first :: rest).map fun parts => sequenceAll (parts.drop start.length)
            sequenceAll (start ++ [choiceWithin rounds ends])
        | _ => ofAlternatives nodes

/-- A choice of patterns. -/
def choiceAll (nodes : List Node) : Node :=
  choiceWithin (nodes.foldl (fun total node => total + node.size) 1) nodes

/-- A repetition of a pattern. To repeat the empty text more than once adds nothing, no repetition
at all is the empty pattern, and a single one is the pattern itself. -/
def repeated (body : Node) (least : Nat) (most : Option Nat) (greedy : Bool) : Node :=
  let (least, most) :=
    if body.matchesOnlyEmpty then (min least 1, some (min (most.getD 1) 1)) else (least, most)
  if most = some 0 then .empty
  else if least = 1 ∧ most = some 1 then body
  else .repetition body least most greedy

end Node

/-- How deep the parts of a pattern may be nested. -/
def maxNesting : Nat := 250

end QueryTail.Pattern
