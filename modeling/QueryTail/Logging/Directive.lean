import QueryTail.Logging.Event
import QueryTail.Pattern.Parser
import QueryTail.Text.Blank
import QueryTail.Text.Letter

/-!
# Directives of a log specification

A directive tells how detailed the events may be that a log takes from some origins. Its forms are
`level`, `target`, `target=level` and `target[span{field}]=level`, where the target, the span and
the field may each be missing; a directive without a level asks for everything.

Blanks around a directive are not looked at, but the parts are cut from the whole text at the places
that they have in the text without the blanks. So a blank in front shifts every part.
-/

namespace QueryTail

open Text

/-- The most detailed level of the events that are taken; `none` takes nothing. -/
abbrev LogThreshold := Option LogLevel

namespace LogThreshold

/-- The threshold of a number from 0 to 5. -/
def ofRank? (rank : Nat) : Option LogThreshold :=
  if rank = 0 then some none else (LogLevel.all.find? fun level => level.rank == rank).map some

/-- The threshold that a word or a number stands for. The case of letters does not count, and a
number may have a plus sign and zeros in front. -/
def ofWord? (word : List Char) : Option LogThreshold :=
  let digits := match word with
    | '+' :: rest => rest
    | word => word
  if !digits.isEmpty && digits.all Char.isDigit then ofRank? (digitsValue digits)
  else
    let plain := word.map Char.toLower
    if plain = "off".toList then some none
    else (LogLevel.all.find? fun level => plain == level.word.toList).map some

/-- Events of a level are taken. -/
def takes (threshold : LogThreshold) (level : LogLevel) : Bool :=
  threshold.any fun most => level.rank ≤ most.rank

end LogThreshold

/-- A field that a directive asks for. -/
structure LogField where
  name : String
  /-- The field must have some value, too. -/
  hasValue : Bool
  deriving DecidableEq, Repr

/-- A directive of a log specification. -/
structure LogDirective where
  target : Option String
  span : Option String
  fields : List LogField
  threshold : LogThreshold

namespace LogDirective

/-! ### Fields -/

/-- The text is a number without a sign, or one of the words for infinity and for no number. -/
def isNumber (text : List Char) : Bool :=
  let (whole, rest) := spanDigits text
  let (fraction, rest) := match rest with
    | '.' :: rest => spanDigits rest
    | rest => ([], rest)
  let exponent := match rest with
    | [] => true
    | e :: '+' :: digits => e.toLower == 'e' && !digits.isEmpty && digits.all Char.isDigit
    | e :: '-' :: digits => e.toLower == 'e' && !digits.isEmpty && digits.all Char.isDigit
    | e :: digits => e.toLower == 'e' && !digits.isEmpty && digits.all Char.isDigit
  (!(whole ++ fraction).isEmpty && exponent) ||
    ["inf", "infinity", "nan"].contains (String.ofList (text.map Char.toLower))

/-- The text can be asked for as a value: as a truth value, a number or a pattern. Of the truth
values and numbers only those with a plus sign are no patterns. -/
def isValue (text : List Char) : Bool :=
  match text with
  | '+' :: number => isNumber number
  | text => (Pattern.parse? (String.ofList text)).isSome

/-- Read a field: a name, and perhaps an equals sign and a value. What follows a second equals sign
does not count. -/
def readField (text : List Char) : Option LogField :=
  if text.isEmpty then none
  else
    let name := String.ofList (text.takeWhile (· != '='))
    match text.dropWhile (· != '=') with
    | [] => some ⟨name, false⟩
    | _ :: value => if isValue (value.takeWhile (· != '=')) then some ⟨name, true⟩ else none

/-! ### Reading a directive -/

/-- A text without its first bytes, unless that would split a character. -/
def dropBytes : List Char → Nat → Option (List Char)
  | text, 0 => some text
  | [], _ + 1 => none
  | c :: rest, count + 1 =>
    if c.utf8Size ≤ count + 1 then dropBytes rest (count + 1 - c.utf8Size) else none

/-- The first bytes of a text, unless that would split a character. -/
def takeBytes : List Char → Nat → Option (List Char)
  | _, 0 => some []
  | [], _ + 1 => none
  | c :: rest, count + 1 =>
    if c.utf8Size ≤ count + 1 then (takeBytes rest (count + 1 - c.utf8Size)).map (c :: ·) else none

/-- The part of a text between two places, which are counted in bytes. -/
def part? (text : List Char) (start stop : Nat) : Option (List Char) :=
  (dropBytes text start).bind fun rest => takeBytes rest (stop - start)

/-- What is being read of a directive; the place is where it started. -/
inductive Position where
  | start
  | levelOrTarget (place : Nat)
  | span (place : Nat)
  | field (place : Nat)
  /-- After the field. -/
  | fields
  /-- After the closing bracket. -/
  | target
  | level (place : Nat)

/-- A directive may start with this character, if not with a bracket. -/
def isStart (c : Char) : Bool :=
  c == '-' || c == ':' || c == '_' || isLetterOrNumber c

/-- Read one character at a place. -/
def step (text : List Char) (directive : LogDirective) (position : Position) (place : Nat)
    (c : Char) : Option (LogDirective × Position) :=
  match position, c with
  | .start, '[' => some (directive, .span (place + 1))
  | .start, c => if isStart c then some (directive, .levelOrTarget place) else none
  | .levelOrTarget start, '=' =>
    (part? text start place).map fun target =>
      ({ directive with target := some (String.ofList target) }, .level (place + 1))
  | .levelOrTarget start, '[' =>
    (part? text start place).map fun target =>
      ({ directive with target := some (String.ofList target) }, .span (place + 1))
  | .span start, ']' =>
    (part? text start place).map fun span =>
      ({ directive with span := some (String.ofList span) }, .target)
  | .span start, '\x7b' =>
    (part? text start place).map fun span =>
      ({ directive with span := if span.isEmpty then none else some (String.ofList span) },
        .field (place + 1))
  | .field start, '\x7d' =>
    ((part? text start place).bind readField).map fun field =>
      ({ directive with fields := directive.fields ++ [field] }, .fields)
  | .fields, ']' => some (directive, .target)
  | .fields, _ => none
  | .target, '=' => some (directive, .level (place + 1))
  | .target, _ => none
  | position, _ => some (directive, position)

/-- Read the characters of a directive, from a place on. -/
def readFrom (text : List Char) (directive : LogDirective) (position : Position) (place : Nat) :
    List Char → Option (LogDirective × Position)
  | [] => some (directive, position)
  | c :: rest =>
    match step text directive position place c with
    | none => none
    | some (directive, position) => readFrom text directive position (place + c.utf8Size) rest

/-- The directive without any condition, which asks for everything. -/
def everything : LogDirective := ⟨none, none, [], some .trace⟩

/-- The directive that a text denotes. -/
def ofText? (text : List Char) : Option LogDirective := do
  let (directive, position) ← readFrom text everything .start 0 (trim text)
  match position with
  | .levelOrTarget place =>
    let rest ← dropBytes text place
    match LogThreshold.ofWord? rest with
    | some threshold => some { directive with threshold }
    | none => some { directive with target := some (String.ofList rest) }
  | .level place =>
    let rest ← dropBytes text place
    if rest.isEmpty then some directive
    else (LogThreshold.ofWord? rest).map fun threshold => { directive with threshold }
  | .target => some directive
  | _ => none

end LogDirective

end QueryTail
