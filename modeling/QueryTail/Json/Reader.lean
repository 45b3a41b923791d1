import QueryTail.Json.NumberText

/-!
# Reading JSON

A reader takes a value from the front of a text and returns it with the characters that remain.
Containers may be nested to a fixed depth. `Reader` is the type of readers that know how much
depth is left; containers are read by folding a step over their items or members, so that a
record type can read its own fields and leave the rest to `skip`.

Every loop is bounded by a count that the entry points take from the length of the text; a loop
that consumes a character per round never reaches it.
-/

namespace QueryTail.Json

/-- How many containers may enclose one another. -/
def maxDepth : Nat := 127

/-- A text without the JSON white space in front of it. -/
def skipSpace (text : List Char) : List Char :=
  text.dropWhile fun c => c = ' ' || c = '\n' || c = '\t' || c = '\r'

/-! ### Strings -/

/-- The value of a hexadecimal digit. -/
def hexDigit (c : Char) : Option Nat :=
  if c.isDigit then some (c.toNat - 48)
  else if 'a' ≤ c ∧ c ≤ 'f' then some (c.toNat - 87)
  else if 'A' ≤ c ∧ c ≤ 'F' then some (c.toNat - 55)
  else none

/-- The 16-bit unit that four hexadecimal digits denote. -/
def hexUnit (a b c d : Char) : Option Nat := do
  some (4096 * (← hexDigit a) + 256 * (← hexDigit b) + 16 * (← hexDigit c) + (← hexDigit d))

/-- The character that a one-letter escape denotes. -/
def shortEscape (c : Char) : Option Char :=
  if c = '"' ∨ c = '\\' ∨ c = '/' then some c
  else if c = 'b' then some '\x08'
  else if c = 'f' then some '\x0c'
  else if c = 'n' then some '\n'
  else if c = 'r' then some '\r'
  else if c = 't' then some '\t'
  else none

/-- Read the rest of a string after its opening quote. Characters below U+0020 must be escaped;
a surrogate may only be written as one half of a pair. -/
def readStringFrom (found : List Char) : List Char → Option (List Char × List Char)
  | [] => none
  | '"' :: rest => some (found.reverse, rest)
  | '\\' :: 'u' :: a :: b :: c :: d :: rest =>
    match hexUnit a b c d with
    | none => none
    | some unit =>
      if 0xDC00 ≤ unit ∧ unit ≤ 0xDFFF then none
      else if 0xD800 ≤ unit ∧ unit ≤ 0xDBFF then
        match rest with
        | '\\' :: 'u' :: e :: f :: g :: h :: rest =>
          match hexUnit e f g h with
          | none => none
          | some low =>
            if 0xDC00 ≤ low ∧ low ≤ 0xDFFF then
              let code := 0x10000 + (unit - 0xD800) * 0x400 + (low - 0xDC00)
              readStringFrom (Char.ofNat code :: found) rest
            else none
        | _ => none
      else readStringFrom (Char.ofNat unit :: found) rest
  | '\\' :: c :: rest =>
    match shortEscape c with
    | none => none
    | some escaped => readStringFrom (escaped :: found) rest
  | c :: rest => if c.toNat < 0x20 then none else readStringFrom (c :: found) rest

/-- Read a string after its opening quote. -/
def readString (text : List Char) : Option (String × List Char) :=
  (readStringFrom [] text).map fun (found, rest) => (String.ofList found, rest)

/-! ### Containers -/

/-- Fold a step over the items of an array of which at least one is still to come. -/
def foldItems {σ : Type} (step : σ → List Char → Option (σ × List Char)) :
    Nat → σ → List Char → Option (σ × List Char)
  | 0, _, _ => none
  | rounds + 1, state, text =>
    match step state (skipSpace text) with
    | none => none
    | some (state, rest) =>
      match skipSpace rest with
      | ',' :: rest => foldItems step rounds state rest
      | ']' :: rest => some (state, rest)
      | _ => none

/-- Fold a step over an array, after its opening bracket. -/
def foldArray {σ : Type} (step : σ → List Char → Option (σ × List Char)) (rounds : Nat)
    (state : σ) (text : List Char) : Option (σ × List Char) :=
  match skipSpace text with
  | ']' :: rest => some (state, rest)
  | rest => foldItems step rounds state rest

/-- Fold a step over the members of an object of which at least one is still to come. The step
gets the name of the member and the text that starts with its value. -/
def foldMembers {σ : Type} (step : σ → String → List Char → Option (σ × List Char)) :
    Nat → σ → List Char → Option (σ × List Char)
  | 0, _, _ => none
  | rounds + 1, state, text =>
    match skipSpace text with
    | '"' :: rest =>
      match readString rest with
      | none => none
      | some (name, rest) =>
        match skipSpace rest with
        | ':' :: rest =>
          match step state name (skipSpace rest) with
          | none => none
          | some (state, rest) =>
            match skipSpace rest with
            | ',' :: rest => foldMembers step rounds state rest
            | '}' :: rest => some (state, rest)
            | _ => none
        | _ => none
    | _ => none

/-- Fold a step over an object, after its opening brace. -/
def foldObject {σ : Type} (step : σ → String → List Char → Option (σ × List Char))
    (rounds : Nat) (state : σ) (text : List Char) : Option (σ × List Char) :=
  match skipSpace text with
  | '}' :: rest => some (state, rest)
  | rest => foldMembers step rounds state rest

/-- Read a given word. -/
def readWord (word text : List Char) : Option (List Char) :=
  if word.isPrefixOf text then some (text.drop word.length) else none

/-- Read a value that is no container. -/
def readScalar (text : List Char) : Option (Json × List Char) :=
  match text with
  | '"' :: rest => (readString rest).map fun (value, rest) => (.string value, rest)
  | 'n' :: _ => (readWord "null".toList text).map fun rest => (.null, rest)
  | 't' :: _ => (readWord "true".toList text).map fun rest => (.bool true, rest)
  | 'f' :: _ => (readWord "false".toList text).map fun rest => (.bool false, rest)
  | _ => do
    let (numeral, rest) ← Numeral.read text
    let value ← numeral.value
    some (.number value, rest)

/-- Read a value in which at most `depth` containers enclose one another. -/
def readValue (rounds : Nat) : Nat → List Char → Option (Json × List Char)
  | depth, '[' :: rest =>
    match depth with
    | 0 => none
    | depth + 1 =>
      let step (found : List Json) (text : List Char) :=
        (readValue rounds depth text).map fun (item, rest) => (item :: found, rest)
      (foldArray step rounds [] rest).map fun (found, rest) => (.array found.reverse, rest)
  | depth, '{' :: rest =>
    match depth with
    | 0 => none
    | depth + 1 =>
      let step (found : Members) (name : String) (text : List Char) :=
        (readValue rounds depth text).map fun (value, rest) => (found.insert name value, rest)
      (foldObject step rounds [] rest).map fun (found, rest) => (.object found, rest)
  | _, text => readScalar text

/-! ### Skipping -/

/-- Skip the rest of a string after its opening quote; escapes need not denote characters. -/
def skipString : List Char → Option (List Char)
  | [] => none
  | '"' :: rest => some rest
  | '\\' :: 'u' :: a :: b :: c :: d :: rest =>
    if (hexUnit a b c d).isSome then skipString rest else none
  | '\\' :: c :: rest => if (shortEscape c).isSome then skipString rest else none
  | c :: rest => if c.toNat < 0x20 then none else skipString rest

/-- Skip the name of a member and the colon after it. -/
def skipName (text : List Char) : Option (List Char) :=
  match skipSpace text with
  | '"' :: rest => do
    let rest ← skipString rest
    match skipSpace rest with
    | ':' :: rest => some rest
    | _ => none
  | _ => none

/-- Skip a value that is no container; a number need only follow the grammar. -/
def skipScalar (text : List Char) : Option (List Char) :=
  match text with
  | '"' :: rest => skipString rest
  | 'n' :: _ => readWord "null".toList text
  | 't' :: _ => readWord "true".toList text
  | 'f' :: _ => readWord "false".toList text
  | _ => (Numeral.read text).map Prod.snd

mutual

/-- Skip a value and then what remains of the containers around it, innermost first; `true`
stands for an object and `false` for an array. Depth is not limited. -/
def skipValue : Nat → List Bool → List Char → Option (List Char)
  | 0, _, _ => none
  | rounds + 1, enclosing, text =>
    match skipSpace text with
    | '[' :: rest =>
      match skipSpace rest with
      | ']' :: rest => skipAfter rounds enclosing rest
      | rest => skipValue rounds (false :: enclosing) rest
    | '{' :: rest =>
      match skipSpace rest with
      | '}' :: rest => skipAfter rounds enclosing rest
      | rest =>
        match skipName rest with
        | none => none
        | some rest => skipValue rounds (true :: enclosing) rest
    | text =>
      match skipScalar text with
      | none => none
      | some rest => skipAfter rounds enclosing rest

/-- Continue after a skipped value in the containers around it. -/
def skipAfter : Nat → List Bool → List Char → Option (List Char)
  | _, [], text => some text
  | 0, _ :: _, _ => none
  | rounds + 1, inObject :: enclosing, text =>
    match inObject, skipSpace text with
    | false, ',' :: rest => skipValue rounds (false :: enclosing) rest
    | false, ']' :: rest => skipAfter rounds enclosing rest
    | true, ',' :: rest =>
      match skipName rest with
      | none => none
      | some rest => skipValue rounds (true :: enclosing) rest
    | true, '}' :: rest => skipAfter rounds enclosing rest
    | _, _ => none

end

/-! ### Whole texts -/

/-- Read a text that holds one value and nothing else but white space. -/
def readWhole {α : Type} (read : Nat → List Char → Option (α × List Char)) (text : String) :
    Option α :=
  let body := text.toList
  match read (2 * body.length + 2) (skipSpace body) with
  | some (value, rest) => if (skipSpace rest).isEmpty then some value else none
  | none => none

/-- The value that a text denotes. -/
def parse? (text : String) : Option Json :=
  readWhole (fun rounds => readValue rounds maxDepth) text

end QueryTail.Json
