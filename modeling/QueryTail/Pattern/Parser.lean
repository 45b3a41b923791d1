import QueryTail.Pattern.Automaton
import QueryTail.Pattern.Lexical
import QueryTail.Pattern.Matching

/-!
# Reading patterns

The pattern language: alternatives, sequences, groups, repetitions and bracketed classes. A pattern
that is not valid, or is nested too deeply, or would take too much memory, denotes nothing.

The readers are bounded by a count of rounds, taken from the length of the pattern; every round
consumes a character or closes what an earlier one opened.
-/

namespace QueryTail.Pattern

open Text

/-- A part of a pattern with the depth to which its own parts are nested. -/
structure Part (α : Type) where
  value : α
  depth : Nat

/-- The depth of the deepest of some parts. -/
def deepest {α : Type} (parts : List (Part α)) : Nat :=
  parts.foldl (fun depth part => max depth part.depth) 0

/-! ### Bracketed classes -/

/-- The operations between the operands of a class. -/
inductive SetOperator where
  | intersection
  | difference
  | symmetricDifference
  deriving DecidableEq, Repr

/-- The operator of a doubled character. -/
def SetOperator.ofChar? (c : Char) : Option SetOperator :=
  match c with
  | '&' => some .intersection
  | '-' => some .difference
  | '~' => some .symmetricDifference
  | _ => none

/-- What is known of a class while it is read: the operand on the left with its operator, and the
items of the operand that is being read, last item first. -/
structure ClassState where
  left : Option (SetOperator × Part CharSet)
  items : List (Part CharSet)

namespace ClassState

/-- The operand that the items form. -/
def operand (state : ClassState) : Part CharSet :=
  match state.items with
  | [] => ⟨.empty, 0⟩
  | [item] => ⟨.unionAll [item.value], item.depth⟩
  | items => ⟨.unionAll (items.map Part.value), 1 + deepest items⟩

/-- The class read so far, with the operator on the left applied. Where letter case is ignored the
two operands are closed under it first. -/
def combined (flags : Flags) (state : ClassState) : Part CharSet :=
  let right := state.operand
  match state.left with
  | none => right
  | some (operator, left) =>
    let leftSet := shaped flags false left.value
    let rightSet := shaped flags false right.value
    let value := match operator with
      | .intersection => leftSet.intersection rightSet
      | .difference => leftSet.difference rightSet
      | .symmetricDifference => leftSet.symmetricDifference rightSet
    ⟨value, 1 + max left.depth right.depth⟩

/-- Add an item to the operand that is being read. -/
def push (state : ClassState) (item : Part CharSet) : ClassState :=
  { state with items := item :: state.items }

end ClassState

/-- A literal inside a class. Outside Unicode mode it must be an ASCII character. -/
def classLiteral (flags : Flags) : Atom → Option Char
  | .literal c _ => if flags.unicode || c.toNat < 0x80 then some c else none
  | _ => none

/-- A single item of a class. -/
def classItem (flags : Flags) (atom : Atom) : Option (Part CharSet) :=
  match atom with
  | .set chars => some ⟨chars, 0⟩
  | atom => (classLiteral flags atom).map fun c => ⟨.single c, 0⟩

/-- Read a character or an escape inside a class. -/
def readClassAtom (flags : Flags) : List Char → Option (Atom × List Char)
  | [] => none
  | '\\' :: rest => readEscape flags rest
  | c :: rest => some (.literal c false, rest)

/-- Read an item of a class or a range between two literals. A hyphen before a closing bracket or
before another hyphen makes no range. -/
def readClassRange (flags : Flags) (text : List Char) : Option (Part CharSet × List Char) := do
  let (first, rest) ← readClassAtom flags text
  match skipIgnored flags.verbose rest with
  | [] => none
  | '-' :: after =>
    let deciding := afterHyphen flags.verbose after
    if deciding = some ']' ∨ deciding = some '-' then
      let item ← classItem flags first
      some (item, '-' :: after)
    else
      let (last, rest) ← readClassAtom flags (skipIgnored flags.verbose after)
      let first ← classLiteral flags first
      let last ← classLiteral flags last
      if first ≤ last then some (⟨.range first.toNat last.toNat, 0⟩, rest) else none
  | rest =>
    let item ← classItem flags first
    some (item, rest)

/-- Read a class such as `[:alpha:]` after its opening bracket; `none` if the text is no such class.
Outside Unicode mode its complement is refused, which the inner option tells. -/
def readNamedClass (flags : Flags) (text : List Char) : Option (Option CharSet × List Char) :=
  match text with
  | ':' :: rest =>
    let (negated, rest) := match rest with
      | '^' :: rest => (true, rest)
      | rest => (false, rest)
    match rest.span (· ≠ ':') with
    | (name, ':' :: ']' :: rest) =>
      (CharSet.ofClassName? (String.ofList name)).map fun chars =>
        (if negated && !flags.unicode then none else some (shaped flags negated chars), rest)
    | _ => none
  | _ => none

/-- Take the hyphens at the start of a class as items. -/
def readLeadingHyphens (verbose : Bool) (state : ClassState) : Nat → List Char →
    ClassState × List Char
  | 0, text => (state, text)
  | rounds + 1, text =>
    match text with
    | '-' :: rest =>
      readLeadingHyphens verbose (state.push ⟨.single '-', 0⟩) rounds (skipIgnored verbose rest)
    | text => (state, text)

/-- Read the start of a class after its opening bracket: a caret for the complement, hyphens, and a
closing bracket if it stands first. -/
def openClass (flags : Flags) (text : List Char) : Bool × ClassState × List Char :=
  let (negated, text) := match skipIgnored flags.verbose text with
    | '^' :: rest => (true, skipIgnored flags.verbose rest)
    | text => (false, text)
  let (state, text) := readLeadingHyphens flags.verbose ⟨none, []⟩ text.length text
  match state.items, text with
  | [], ']' :: rest =>
    (negated, state.push ⟨.single ']', 0⟩, skipIgnored flags.verbose rest)
  | _, text => (negated, state, text)

/-- Read the items of a class up to its closing bracket. -/
def readClass (flags : Flags) : Nat → Bool → ClassState → List Char →
    Option (Part CharSet × List Char)
  | 0, _, _, _ => none
  | rounds + 1, negated, state, text =>
    match skipIgnored flags.verbose text with
    | [] => none
    | ']' :: rest =>
      let whole := state.combined flags
      if negated && !flags.unicode then none
      else some (⟨shaped flags negated whole.value, 1 + whole.depth⟩, rest)
    | '[' :: rest =>
      match readNamedClass flags rest with
      | some (none, _) => none
      | some (some chars, rest) => readClass flags rounds negated (state.push ⟨chars, 0⟩) rest
      | none =>
        let (innerNegated, inner, rest) := openClass flags rest
        match readClass flags rounds innerNegated inner rest with
        | none => none
        | some (item, rest) => readClass flags rounds negated (state.push item) rest
    | c :: d :: rest =>
      match SetOperator.ofChar? c, c == d with
      | some operator, true =>
        readClass flags rounds negated ⟨some (operator, state.combined flags), []⟩ rest
      | _, _ =>
        match readClassRange flags (c :: d :: rest) with
        | none => none
        | some (item, rest) => readClass flags rounds negated (state.push item) rest
    | [_] => none

/-! ### Sequences and groups -/

/-- An item of a sequence: a pattern, or a change of flags, which cannot be repeated. -/
inductive Item where
  | part (part : Part Node)
  | flags

/-- What is known of a group while it is read: the finished alternatives and the items of the one
that is being read, each last first. -/
structure GroupState where
  alternatives : List (Part Node)
  items : List Item

namespace GroupState

/-- The alternative that the items form. -/
def sequence (state : GroupState) : Part Node :=
  let parts := state.items.reverse.map fun
    | .part part => part
    | .flags => ⟨.empty, 0⟩
  match parts with
  | [] => ⟨.empty, 0⟩
  | [part] => part
  | parts => ⟨.sequenceAll (parts.map Part.value), 1 + deepest parts⟩

/-- The whole group. -/
def whole (state : GroupState) : Part Node :=
  match state.alternatives with
  | [] => state.sequence
  | earlier =>
    let parts := earlier.reverse ++ [state.sequence]
    ⟨.choiceAll (parts.map Part.value), 1 + deepest parts⟩

/-- Begin another alternative. -/
def branch (state : GroupState) : GroupState :=
  ⟨state.sequence :: state.alternatives, []⟩

/-- Add an item. -/
def push (state : GroupState) (item : Item) : GroupState :=
  { state with items := item :: state.items }

/-- Add a pattern without parts of its own. -/
def pushNode (state : GroupState) (node : Node) : GroupState :=
  state.push (.part ⟨node, 0⟩)

/-- Repeat the last item; there must be one, and it must be a pattern. -/
def repeatLast (state : GroupState) (least : Nat) (most : Option Nat) (greedy : Bool) :
    Option GroupState :=
  match state.items with
  | .part part :: rest =>
    let node := part.value.repeated least most greedy
    some { state with items := .part ⟨node, 1 + part.depth⟩ :: rest }
  | _ => none

end GroupState

/-- The pattern of an atom outside a class. A byte outside ASCII is no character outside Unicode
mode and is refused there. -/
def atomNode (flags : Flags) : Atom → Option Node
  | .set chars => some (.ofSet (!flags.unicode) chars)
  | .look look => some (.look look)
  | .literal c asByte =>
    if asByte && !flags.unicode && 0x80 ≤ c.toNat then none
    else some (.ofSet (!flags.unicode) (shaped flags false (.single c)))

/-- The set of a dot. Outside Unicode mode it would match parts of characters and is refused. -/
def dotNode (flags : Flags) : Option Node :=
  if !flags.unicode then none
  else if flags.dotMatchesNewline then some (.ofSet false (.complement .empty))
  else if flags.carriageReturns then
    some (.ofSet false (.complement (.union (.single '\n') (.single '\r'))))
  else some (.ofSet false (.complement (.single '\n')))

/-- The condition of a caret. -/
def caretLook (flags : Flags) : Look :=
  if flags.multiLine then .lineStart flags.carriageReturns else .textStart

/-- The condition of a dollar sign. -/
def dollarLook (flags : Flags) : Look :=
  if flags.multiLine then .lineEnd flags.carriageReturns else .textEnd

/-- How a group opens: it changes the flags of the group around it, or holds a pattern of its own,
either under flags that it sets or with a number and perhaps a name. -/
inductive GroupOpening where
  | change (flags : Flags)
  | plain (flags : Flags)
  | numbered (name : Option (List Char))

/-- Read the opening of a group after its parenthesis. Look-around is no part of the language. -/
def readGroupOpening (flags : Flags) (text : List Char) : Option (GroupOpening × List Char) :=
  let named (rest : List Char) : Option (GroupOpening × List Char) :=
    (readGroupName [] rest).map fun (name, rest) => (.numbered (some name), rest)
  match skipIgnored flags.verbose text with
  | '?' :: 'P' :: '<' :: rest => named rest
  | '?' :: '<' :: '=' :: _ => none
  | '?' :: '<' :: '!' :: _ => none
  | '?' :: '<' :: rest => named rest
  | '?' :: rest =>
    match readFlags [] true false flags rest with
    | some (inner, _, ':' :: rest) => some (.plain inner, rest)
    | some (inner, _ :: _, ')' :: rest) => some (.change inner, rest)
    | _ => none
  | rest => some (.numbered none, rest)

/-- The number of the numbered groups so far, and the names of those that have one. -/
structure Numbering where
  count : Nat
  names : List (List Char)

/-- Number one more group. No name may be given twice. -/
def Numbering.add (numbering : Numbering) (name : Option (List Char)) : Option Numbering :=
  if name.any numbering.names.contains then none
  else some ⟨numbering.count + 1, name.toList ++ numbering.names⟩

/-- Read the inside of a group up to a closing parenthesis or the end, which is not consumed. Also
returns the numbering of all groups so far. -/
def readGroup : Nat → Flags → Numbering → GroupState → List Char →
    Option (Part Node × Numbering × List Char)
  | 0, _, _, _, _ => none
  | rounds + 1, flags, groups, state, text =>
    match skipIgnored flags.verbose text with
    | [] => some (state.whole, groups, [])
    | ')' :: rest => some (state.whole, groups, ')' :: rest)
    | '|' :: rest => readGroup rounds flags groups state.branch rest
    | '(' :: rest =>
      match readGroupOpening flags rest with
      | none => none
      | some (.change changed, rest) => readGroup rounds changed groups (state.push .flags) rest
      | some (.plain inner, rest) =>
        match readGroup rounds inner groups ⟨[], []⟩ rest with
        | some (part, groups, ')' :: rest) =>
          readGroup rounds flags groups (state.push (.part ⟨part.value, 1 + part.depth⟩)) rest
        | _ => none
      | some (.numbered name, rest) =>
        match groups.add name with
        | none => none
        | some inner =>
          match readGroup rounds flags inner ⟨[], []⟩ rest with
          | some (part, groups, ')' :: rest) =>
            let group : Part Node := ⟨.group inner.count part.value, 1 + part.depth⟩
            readGroup rounds flags groups (state.push (.part group)) rest
          | _ => none
    | '[' :: rest =>
      let (negated, inner, rest) := openClass flags rest
      match readClass flags rounds negated inner rest with
      | none => none
      | some (part, rest) =>
        let node := Node.ofSet (!flags.unicode) part.value
        readGroup rounds flags groups (state.push (.part ⟨node, part.depth⟩)) rest
    | '?' :: rest => repeatWith rounds flags groups state 0 (some 1) rest
    | '*' :: rest => repeatWith rounds flags groups state 0 none rest
    | '+' :: rest => repeatWith rounds flags groups state 1 none rest
    | '\x7b' :: rest =>
      match readBounds flags.verbose rest with
      | none => none
      | some ((least, most), rest) =>
        repeatWith rounds flags groups state least most (skipIgnored flags.verbose rest)
    | '\\' :: rest =>
      match readEscape flags rest with
      | none => none
      | some (atom, rest) =>
        continueWith rounds flags groups ((atomNode flags atom).map state.pushNode) rest
    | '.' :: rest => continueWith rounds flags groups ((dotNode flags).map state.pushNode) rest
    | '^' :: rest => readGroup rounds flags groups (state.pushNode (.look (caretLook flags))) rest
    | '$' :: rest => readGroup rounds flags groups (state.pushNode (.look (dollarLook flags))) rest
    | c :: rest =>
      continueWith rounds flags groups ((atomNode flags (.literal c false)).map state.pushNode) rest
where
  /-- Go on with a state, if there is one. -/
  continueWith (rounds : Nat) (flags : Flags) (groups : Numbering)
      (state : Option GroupState) (text : List Char) : Option (Part Node × Numbering × List Char) :=
    match state with
    | none => none
    | some state => readGroup rounds flags groups state text
  /-- Repeat the last item and go on. -/
  repeatWith (rounds : Nat) (flags : Flags) (groups : Numbering) (state : GroupState) (least : Nat)
      (most : Option Nat) (text : List Char) : Option (Part Node × Numbering × List Char) :=
    let (greedy, rest) := readGreed flags text
    continueWith rounds flags groups (state.repeatLast least most greedy) rest

/-- The pattern that a text denotes. -/
def parse? (text : String) : Option Node :=
  let body := text.toList
  match readGroup (2 * body.length + 2) .initial ⟨0, []⟩ ⟨[], []⟩ body with
  | some (part, _, []) => if part.depth ≤ maxNesting && part.value.fits then some part.value else none
  | _ => none

end QueryTail.Pattern

namespace QueryTail

/-- A compiled pattern: its text, and the texts in which it occurs. -/
structure Matcher where
  pattern : String
  accepts : String → Bool

/-- Compile a pattern; only a valid pattern has a matcher. -/
def Matcher.compile? (pattern : String) : Option Matcher :=
  (Pattern.parse? pattern).map fun node => ⟨pattern, fun text => node.occursIn text.toList⟩

/-- A compiled pattern keeps the text that it was compiled from. -/
theorem Matcher.pattern_of_compile? {pattern : String} {matcher : Matcher}
    (compiled : compile? pattern = some matcher) : matcher.pattern = pattern := by
  unfold compile? at compiled
  cases parsed : Pattern.parse? pattern with
  | none => simp [parsed] at compiled
  | some node =>
    simp only [parsed, Option.map_some, Option.some.injEq] at compiled
    rw [← compiled]

end QueryTail
