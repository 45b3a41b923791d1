import QueryTail.Text.Blank
import QueryTail.Time.Instant

/-!
# Timestamps as nodes write them

Nodes do not agree on a spelling. `resolve` knows three: date and time with a zone, date and time
without one (taken as UTC), and a count of milliseconds since 1970. A text in none of these
spellings resolves to nothing; resolution never fails in any other way.
-/

namespace QueryTail.Time

open Text

/-- The parts of a day's time as written; the second may be the leap second 60. -/
structure TimeOfDay where
  hour : Nat
  minute : Nat
  second : Nat
  nanos : Nat
  deriving DecidableEq, Repr

/-- The hour, minute and second lie in a day, or are those of a leap second. -/
def TimeOfDay.Exists (time : TimeOfDay) : Prop :=
  time.hour ≤ 23 ∧ time.minute ≤ 59 ∧ time.second ≤ 60

instance (time : TimeOfDay) : Decidable time.Exists :=
  inferInstanceAs (Decidable (_ ∧ _ ∧ _))

namespace Timestamp

/-- The years that can be resolved. -/
def minYear : Int := -262143

/-- The last year that can be resolved. -/
def maxYear : Int := 262142

/-- The instant of a date and time that both exist, in a year within the supported span. -/
def instantOf (date : Date) (time : TimeOfDay) : Option Instant :=
  if date.Exists ∧ time.Exists ∧ minYear ≤ date.year ∧ date.year ≤ maxYear then
    some (Instant.ofCivil date time.hour time.minute time.second time.nanos)
  else
    none

/-- The nanoseconds that fraction digits denote; digits after the ninth are cut off. -/
def fractionNanos (fraction : List Char) : Nat :=
  let kept := fraction.take 9
  digitsValue kept * Nat.pow 10 (9 - kept.length)

/-- Read an optional fraction: a point and at least one digit. -/
def readFraction (text : List Char) : Option (Nat × List Char) :=
  match text with
  | '.' :: rest =>
    match spanDigits rest with
    | ([], _) => none
    | (found, rest) => some (fractionNanos found, rest)
  | _ => some (0, text)

/-! ### Date and time with a zone -/

/-- Skip the sign of `T`, `t` or a space between date and time. -/
def readSeparator : List Char → Option (List Char)
  | c :: rest => if c = 'T' ∨ c = 't' ∨ c = ' ' then some rest else none
  | [] => none

/-- Read a zone as its distance from UTC in seconds: `Z`, `z`, or a sign (the minus sign may be
U+2212), two digits of hours up to 23, a colon and two digits of minutes up to 59. -/
def readZone : List Char → Option (Int × List Char)
  | [] => none
  | c :: rest =>
    if c = 'Z' ∨ c = 'z' then some (0, rest)
    else if c = '+' ∨ c = '-' ∨ c = '−' then do
      let (hours, rest) ← readFixed 2 rest
      let rest ← readChar ':' rest
      let (minutes, rest) ← readFixed 2 rest
      if hours ≤ 23 ∧ minutes ≤ 59 then
        let distance : Int := hours * 3600 + minutes * 60
        some (if c = '+' then distance else -distance, rest)
      else none
    else none

/-- Resolve a date and time with a zone; every field has its full width and nothing follows. -/
def resolveZoned (text : List Char) : Option Instant := do
  let (year, rest) ← readFixed 4 text
  let rest ← readChar '-' rest
  let (month, rest) ← readFixed 2 rest
  let rest ← readChar '-' rest
  let (day, rest) ← readFixed 2 rest
  let rest ← readSeparator rest
  let (hour, rest) ← readFixed 2 rest
  let rest ← readChar ':' rest
  let (minute, rest) ← readFixed 2 rest
  let rest ← readChar ':' rest
  let (second, rest) ← readFixed 2 rest
  let (nanos, rest) ← readFraction rest
  let (zone, rest) ← readZone rest
  if rest.isEmpty then
    let instant ← instantOf ⟨year, month, day⟩ ⟨hour, minute, second, nanos⟩
    some (instant.shift (-zone))
  else none

/-! ### Date and time without a zone -/

/-- Write every slash as a hyphen and the first `T` as a space. -/
def normalise (text : List Char) : List Char :=
  let hyphens := text.map fun c => if c = '/' then '-' else c
  match hyphens.span (· ≠ 'T') with
  | (before, _ :: after) => before ++ ' ' :: after
  | (before, []) => before

/-- Read a year: with a sign any number of digits, without one at most four. Blanks may precede
the year but not stand between its sign and digits. -/
def readYear (text : List Char) : Option (Int × List Char) :=
  match skipBlanks text with
  | '-' :: rest => (readNumber rest).map fun (year, rest) => (-(year : Int), rest)
  | '+' :: rest => (readNumber rest).map fun (year, rest) => ((year : Int), rest)
  | rest => (readNumberUpTo 4 rest).map fun (year, rest) => ((year : Int), rest)

/-- Read a field of one or two digits that blanks may precede. -/
def readField (text : List Char) : Option (Nat × List Char) :=
  readNumberUpTo 2 (skipBlanks text)

/-- Read the seconds, which are optional: a colon, a field and an optional fraction. -/
def readSeconds (text : List Char) : Option ((Nat × Nat) × List Char) :=
  match text with
  | ':' :: rest => do
    let (second, rest) ← readField rest
    let (nanos, rest) ← readFraction rest
    some ((second, nanos), rest)
  | _ => some ((0, 0), text)

/-- Resolve a date and time without a zone, taken as UTC. Fields may be shorter than their full
width, and any number of blanks, or none, parts date and time. -/
def resolveNaive (text : List Char) : Option Instant := do
  let (year, rest) ← readYear (normalise text)
  let rest ← readChar '-' rest
  let (month, rest) ← readField rest
  let rest ← readChar '-' rest
  let (day, rest) ← readField rest
  let (hour, rest) ← readField rest
  let rest ← readChar ':' rest
  let (minute, rest) ← readField rest
  let ((second, nanos), rest) ← readSeconds rest
  if rest.isEmpty then
    instantOf ⟨year, month, day⟩ ⟨hour, minute, second, nanos⟩
  else none

/-! ### Milliseconds since 1970 -/

/-- The least count that is taken as milliseconds since 1970, in September 2001. -/
def minEpochMillis : Nat := 1000000000000

/-- The greatest count that is taken as milliseconds since 1970, in November 2286. -/
def maxEpochMillis : Nat := 9999999999999

/-- Resolve a text of digits alone as milliseconds, if the count lies in the accepted span. -/
def resolveEpochMillis (text : List Char) : Option Instant :=
  let millis := digitsValue text
  if text.all Char.isDigit ∧ minEpochMillis ≤ millis ∧ millis ≤ maxEpochMillis then
    some (Instant.ofEpochMillis millis)
  else none

/-- Resolve a timestamp, ignoring blanks around it. The spelling with a zone is tried first, then
the one without, then milliseconds. -/
def resolve (text : String) : Option Instant :=
  let body := trim text.toList
  resolveZoned body <|> resolveNaive body <|> resolveEpochMillis body

end Timestamp

end QueryTail.Time
