import QueryTail.Pattern.Basic
import QueryTail.Text.Blank
import QueryTail.Text.Letter

/-!
# The small parts of the pattern language

Flags, escapes, and the numbers of counted repetitions: everything in a written pattern that has no
parts of its own. A reader returns what it read and the characters that remain; `none` means that
the pattern is not valid.

In verbose mode blanks and comments may stand between the parts of a pattern. `skipIgnored` drops
them where the mode is on.
-/

namespace QueryTail.Pattern

open Text

/-- The flags in force at some place of a pattern. Under `swapGreed` a repetition is greedy if it is
written as a reluctant one, and the other way round. -/
structure Flags where
  ignoreCase : Bool
  multiLine : Bool
  dotMatchesNewline : Bool
  carriageReturns : Bool
  unicode : Bool
  verbose : Bool
  swapGreed : Bool
  deriving DecidableEq, Repr

/-- The flags at the start of a pattern. -/
def Flags.initial : Flags := ⟨false, false, false, false, true, false, false⟩

/-- Set one flag by its letter. -/
def Flags.set? (flags : Flags) (letter : Char) (value : Bool) : Option Flags :=
  match letter with
  | 'i' => some { flags with ignoreCase := value }
  | 'm' => some { flags with multiLine := value }
  | 's' => some { flags with dotMatchesNewline := value }
  | 'R' => some { flags with carriageReturns := value }
  | 'u' => some { flags with unicode := value }
  | 'x' => some { flags with verbose := value }
  | 'U' => some { flags with swapGreed := value }
  | _ => none

/-- Drop the rest of a comment, blanks, and comments. -/
def skipComments (inComment : Bool) : List Char → List Char
  | [] => []
  | c :: rest =>
    if inComment then skipComments (c ≠ '\n') rest
    else if isBlank c then skipComments false rest
    else if c = '#' then skipComments true rest
    else c :: rest

/-- The first character that is neither blank nor starts a comment. In a comment the first character
that is not blank counts, even where the comment ends before it. -/
def firstSolid (inComment : Bool) : List Char → Option Char
  | [] => none
  | c :: rest =>
    if isBlank c then firstSolid inComment rest
    else if c = '#' ∧ !inComment then firstSolid true rest
    else some c

/-- The character that decides what a hyphen in a class means. In verbose mode blanks and the signs
of comments in front of it do not count, unless nothing else comes. -/
def afterHyphen (verbose : Bool) (text : List Char) : Option Char :=
  if verbose then firstSolid false text <|> text.head? else text.head?

/-- Drop what verbose mode ignores. -/
def skipIgnored (verbose : Bool) (text : List Char) : List Char :=
  if verbose then skipComments false text else text

/-- Read flags up to a colon or a closing parenthesis, which is not consumed. No letter and no
hyphen may occur twice, and a hyphen must be followed by a letter. The letters read so far are
`seen`; `value` is what the next letter sets its flag to. -/
def readFlags (seen : List Char) (value : Bool) (afterHyphen : Bool) (flags : Flags) :
    List Char → Option (Flags × List Char × List Char)
  | [] => none
  | c :: rest =>
    if c = ':' ∨ c = ')' then
      if afterHyphen then none else some (flags, seen, c :: rest)
    else if c = '-' then
      if value then readFlags seen false true flags rest else none
    else if seen.contains c then none
    else
      match flags.set? c value with
      | none => none
      | some flags => readFlags (c :: seen) value false flags rest

/-! ### Escapes -/

/-- What an escape or a single character outside a class denotes. A literal remembers whether it
was written as a two-digit hexadecimal escape, which denotes a byte outside Unicode mode. -/
inductive Atom where
  | literal (c : Char) (asByte : Bool)
  | set (chars : CharSet)
  | look (look : Look)

/-- The value of a hexadecimal digit of either case. -/
def hexValue (c : Char) : Option Nat :=
  if c.isDigit then some (c.toNat - 48)
  else if 'a' ≤ c ∧ c ≤ 'f' then some (c.toNat - 87)
  else if 'A' ≤ c ∧ c ≤ 'F' then some (c.toNat - 55)
  else none

/-- The character with a given code. -/
def charOfCode (code : Nat) : Option Char :=
  if code.isValidChar then some (Char.ofNat code) else none

/-- Read a fixed number of hexadecimal digits. -/
def readHexDigits (verbose : Bool) : Nat → Nat → List Char → Option (Nat × List Char)
  | 0, value, text => some (value, text)
  | _ + 1, _, [] => none
  | count + 1, value, c :: rest =>
    match hexValue c with
    | none => none
    | some digit => readHexDigits verbose count (16 * value + digit) (skipIgnored verbose rest)

/-- The characters up to a closing brace, and what follows the brace. In verbose mode what is
ignored is dropped before each of them. The count bounds the search. -/
def readBraced (verbose : Bool) (found : List Char) : Nat → List Char →
    Option (List Char × List Char)
  | 0, _ => none
  | rounds + 1, text =>
    match skipIgnored verbose text with
    | [] => none
    | '}' :: rest => some (found.reverse, rest)
    | c :: rest => readBraced verbose (c :: found) rounds rest

/-- The number that hexadecimal digits denote; there must be at least one. -/
def hexNumber (digits : List Char) : Option Nat :=
  if digits.isEmpty then none
  else digits.foldlM (fun value c => (hexValue c).map (16 * value + ·)) 0

/-- Read a hexadecimal escape after its letter, which stands for a number of digits. -/
def readHex (verbose : Bool) (count : Nat) (text : List Char) : Option (Atom × List Char) :=
  match skipIgnored verbose text with
  | '{' :: rest => do
    let (digits, rest) ← readBraced verbose [] (rest.length + 1) rest
    let c ← charOfCode (← hexNumber digits)
    some (.literal c false, skipIgnored verbose rest)
  | text => do
    let (code, rest) ← readHexDigits verbose count 0 text
    let c ← charOfCode code
    some (.literal c (count == 2), rest)

/-- Split a property at the first `!=`, or else at the first colon, or else at the first equals
sign. Also tells whether the split was at `!=`. -/
def splitProperty (name : List Char) : Option (List Char × List Char × Bool) :=
  let rec atNotEqual (before : List Char) : List Char → Option (List Char × List Char)
    | '!' :: '=' :: rest => some (before.reverse, rest)
    | c :: rest => atNotEqual (c :: before) rest
    | [] => none
  let atChar (separator : Char) : Option (List Char × List Char) :=
    match name.span (· ≠ separator) with
    | (before, _ :: after) => some (before, after)
    | (_, []) => none
  match atNotEqual [] name with
  | some (property, value) => some (property, value, true)
  | none => ((atChar ':') <|> (atChar '=')).map fun (property, value) => (property, value, false)

/-- A set as a flag of letter case and a negation shape it: first closed, then complemented. -/
def shaped (flags : Flags) (negated : Bool) (chars : CharSet) : CharSet :=
  let closed := if flags.ignoreCase then CharSet.closed (!flags.unicode) chars else chars
  if negated then .complement closed else closed

/-- Read a property after `\p` or `\P`. Properties exist in Unicode mode only. -/
def readProperty (flags : Flags) (negated : Bool) (text : List Char) :
    Option (Atom × List Char) :=
  match skipIgnored flags.verbose text with
  | [] => none
  | '{' :: rest => do
    let (name, rest) ← readBraced flags.verbose [] (rest.length + 1) rest
    let (named, negated) ← match splitProperty name with
      | some (property, value, differs) =>
        (Property.ofValue? property value).map (·, negated != differs)
      | none => (Property.ofName? name).map (·, negated)
    if flags.unicode then some (.set (shaped flags negated named), rest) else none
  | c :: rest =>
    if c = '\\' then none
    else do
      let named ← Property.ofName? [c]
      if flags.unicode then
        some (.set (shaped flags negated named), skipIgnored flags.verbose rest)
      else none

/-- One of the classes `\d`, `\s`, `\w` and their complements. Outside Unicode mode a complement
would contain parts of characters, so it is refused. -/
def shorthand (flags : Flags) (letter : Char) : Option CharSet :=
  let (inUnicode, inAscii) : CharSet × CharSet := match letter.toLower with
    | 'd' => (Property.decimalDigits, CharSet.asciiDigits)
    | 's' => (Property.blanks, CharSet.asciiBlanks)
    | _ => (Property.wordCharacters, CharSet.asciiWord)
  let negated := letter.isUpper
  if flags.unicode then
    some (if negated then inUnicode.complement else inUnicode)
  else if negated then none
  else some inAscii

/-- The characters that have a meaning in patterns and may always be escaped. -/
def isMeta (c : Char) : Bool :=
  "\\.+*?()|[]\x7b\x7d^$#&-~".toList.contains c

/-- A character that may be escaped to stand for itself. -/
def isEscapable (c : Char) : Bool :=
  isMeta c || (c.toNat < 0x80 && !c.isAlphanum && c != '<' && c != '>')

/-- The control character that an escaped letter stands for. -/
def controlEscape (c : Char) : Option Char :=
  match c with
  | 'a' => some '\x07'
  | 'f' => some '\x0c'
  | 't' => some '\t'
  | 'n' => some '\n'
  | 'r' => some '\r'
  | 'v' => some '\x0b'
  | _ => none

/-- A name of a special word boundary is made of these characters. -/
def isBoundaryNameChar (c : Char) : Bool :=
  c.isAlpha || c == '-'

/-- Read the name of a special word boundary up to its closing brace. -/
def readBoundaryName (verbose : Bool) (found : List Char) : Nat → List Char →
    Option (List Char × List Char)
  | 0, _ => none
  | _ + 1, '}' :: rest => some (found.reverse, rest)
  | rounds + 1, c :: rest =>
    if isBoundaryNameChar c then
      readBoundaryName verbose (c :: found) rounds (skipIgnored verbose rest)
    else none
  | _ + 1, [] => none

/-- Read what follows `\b`: a name in braces makes it a special word boundary. A brace that cannot
start a name belongs to a counted repetition. -/
def readBoundary (flags : Flags) (text : List Char) : Option (Atom × List Char) :=
  let plain : Atom := .look (.boundary flags.unicode)
  match text with
  | '{' :: rest =>
    match skipIgnored flags.verbose rest with
    | [] => none
    | c :: inner =>
      if isBoundaryNameChar c then do
        let (name, rest) ← readBoundaryName flags.verbose [] (inner.length + 2) (c :: inner)
        let look : Look ← match String.ofList name with
          | "start" => some (.wordStart flags.unicode)
          | "end" => some (.wordEnd flags.unicode)
          | "start-half" => some (.wordStartHalf flags.unicode)
          | "end-half" => some (.wordEndHalf flags.unicode)
          | _ => none
        some (.look look, rest)
      else some (plain, text)
  | _ => some (plain, text)

/-- Read an escape after its backslash. -/
def readEscape (flags : Flags) (text : List Char) : Option (Atom × List Char) :=
  match text with
  | [] => none
  | c :: rest =>
    if c = 'x' then readHex flags.verbose 2 rest
    else if c = 'u' then readHex flags.verbose 4 rest
    else if c = 'U' then readHex flags.verbose 8 rest
    else if c = 'p' ∨ c = 'P' then readProperty flags (c == 'P') rest
    else if "dswDSW".toList.contains c then
      (shorthand flags c).map fun chars => (.set chars, rest)
    else if isEscapable c then some (.literal c false, rest)
    else match controlEscape c with
      | some control => some (.literal control false, rest)
      | none =>
        match c with
        | 'A' => some (.look .textStart, rest)
        | 'z' => some (.look .textEnd, rest)
        | 'b' => readBoundary flags rest
        | 'B' => some (.look (.notBoundary flags.unicode), rest)
        | '<' => some (.look (.wordStart flags.unicode), rest)
        | '>' => some (.look (.wordEnd flags.unicode), rest)
        | _ => none

/-! ### Counts -/

/-- The greatest count of a repetition. -/
def maxCount : Nat := 4294967295

/-- Read the digits of a count, with what verbose mode ignores between them. -/
def readCountDigits (verbose : Bool) (found : List Char) : Nat → List Char →
    List Char × List Char
  | 0, text => (found.reverse, text)
  | _ + 1, [] => (found.reverse, [])
  | rounds + 1, c :: rest =>
    if c.isDigit then readCountDigits verbose (c :: found) rounds (skipIgnored verbose rest)
    else (found.reverse, c :: rest)

/-- Read a count with blanks around it. -/
def readCount (verbose : Bool) (text : List Char) : Option (Nat × List Char) :=
  match readCountDigits verbose [] (text.length + 1) (skipBlanks text) with
  | ([], _) => none
  | (digits, rest) =>
    let count := digitsValue digits
    if count ≤ maxCount then
      let rest := skipBlanks rest
      some (count, skipIgnored verbose rest)
    else none

/-- Read the bounds of a counted repetition after its opening brace. -/
def readBounds (verbose : Bool) (text : List Char) : Option ((Nat × Option Nat) × List Char) := do
  let (least, rest) ← readCount verbose (skipIgnored verbose text)
  match rest with
  | ',' :: rest =>
    match skipIgnored verbose rest with
    | '}' :: rest => some ((least, none), rest)
    | rest =>
      let (most, rest) ← readCount verbose rest
      let rest ← readChar '}' rest
      if least ≤ most then some ((least, some most), rest) else none
  | rest =>
    let rest ← readChar '}' rest
    some ((least, some least), rest)

/-- Read the question mark that makes a repetition reluctant, and tell whether the repetition is
greedy. -/
def readGreed (flags : Flags) : List Char → Bool × List Char
  | '?' :: rest => (flags.swapGreed, rest)
  | rest => (!flags.swapGreed, rest)

/-- Read the name of a group up to `>`. It starts with a letter or underscore and goes on with
letters, numbers, underscores, points and brackets. -/
def readGroupName (found : List Char) : List Char → Option (List Char × List Char)
  | [] => none
  | c :: rest =>
    if c = '>' then
      if found.isEmpty then none else some (found.reverse, rest)
    else
      let allowed := if found.isEmpty then c == '_' || isLetter c
        else "_.[]".toList.contains c || isLetterOrNumber c
      if allowed then readGroupName (c :: found) rest else none

end QueryTail.Pattern
