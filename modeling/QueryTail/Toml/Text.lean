/-!
# Characters and strings of TOML

Space inside a line, comments, line ends, and the four kinds of strings: between double quotes with
escapes or between single quotes without, each on one line or, with three quotes, on several. In a
string of several lines every line end is read as a line feed, and the one right after the opening
quotes does not count. One or two quotes may stand right before the closing ones.
-/

namespace QueryTail.Toml

/-- Space inside a line. -/
def isSpace (c : Char) : Bool :=
  c == ' ' || c == '\t'

/-- A character that may stand in a comment or, if it is no delimiter, in a string. -/
def isTextual (c : Char) : Bool :=
  c == '\t' || (0x20 ≤ c.toNat && c.toNat ≠ 0x7F)

/-- A text without the space in front of it. -/
def skipSpace (text : List Char) : List Char :=
  text.dropWhile isSpace

/-- Skip a comment, if there is one, up to the end of its line. -/
def skipComment : List Char → List Char
  | '#' :: rest => rest.dropWhile isTextual
  | text => text

/-- Skip a line end. -/
def skipNewline : List Char → Option (List Char)
  | '\n' :: rest => some rest
  | '\r' :: '\n' :: rest => some rest
  | _ => none

/-- Skip what may follow an expression on its line, and the end of the line. -/
def endLine (text : List Char) : Option (List Char) :=
  match skipComment (skipSpace text) with
  | [] => some []
  | rest => skipNewline rest

/-- Skip space, comments and line ends, as they may stand between the items of an array. -/
def skipLines : List Char → List Char
  | [] => []
  | '\r' :: '\n' :: rest => skipLines rest
  | '#' :: rest => skipCommentLine rest
  | c :: rest => if isSpace c || c == '\n' then skipLines rest else c :: rest
where
  /-- Skip the rest of a comment and what `skipLines` skips after it. -/
  skipCommentLine : List Char → List Char
    | [] => []
    | '\r' :: '\n' :: rest => skipLines rest
    | c :: rest =>
      if isTextual c then skipCommentLine rest
      else if c == '\n' then skipLines rest
      else c :: rest

/-! ### Strings -/

/-- The value of a hexadecimal digit. -/
def hexDigit (c : Char) : Option Nat :=
  if c.isDigit then some (c.toNat - 48)
  else if 'a' ≤ c ∧ c ≤ 'f' then some (c.toNat - 87)
  else if 'A' ≤ c ∧ c ≤ 'F' then some (c.toNat - 55)
  else none

/-- The character whose code point is written in hexadecimal digits. -/
def hexChar (digits : List Char) : Option Char := do
  let code ← digits.foldlM (fun code c => (hexDigit c).map (16 * code + ·)) 0
  if Nat.isValidChar code then some (Char.ofNat code) else none

/-- The character that a one-letter escape denotes. -/
def shortEscape (c : Char) : Option Char :=
  if c = '"' ∨ c = '\\' then some c
  else if c = 'b' then some '\x08'
  else if c = 't' then some '\t'
  else if c = 'n' then some '\n'
  else if c = 'f' then some '\x0c'
  else if c = 'r' then some '\r'
  else none

/-- Nothing but space stands before the next line end. -/
def restOfLineIsSpace (text : List Char) : Bool :=
  (skipNewline (skipSpace text)).isSome

/-- Read the rest of a string in double quotes. While `trimming`, after a backslash at the end of a
line, space and line ends are passed over. -/
def readBasicFrom (multiline : Bool) (trimming : Bool) (found : List Char) :
    List Char → Option (List Char × List Char)
  | [] => none
  | '"' :: rest =>
    if multiline then
      match rest with
      | '"' :: '"' :: '"' :: '"' :: rest => some (('"' :: '"' :: found).reverse, rest)
      | '"' :: '"' :: '"' :: rest => some (('"' :: found).reverse, rest)
      | '"' :: '"' :: rest => some (found.reverse, rest)
      | rest => readBasicFrom multiline false ('"' :: found) rest
    else some (found.reverse, rest)
  | '\\' :: 'u' :: a :: b :: c :: d :: rest =>
    match hexChar [a, b, c, d] with
    | none => none
    | some e => readBasicFrom multiline false (e :: found) rest
  | '\\' :: 'U' :: a :: b :: c :: d :: e :: f :: g :: h :: rest =>
    match hexChar [a, b, c, d, e, f, g, h] with
    | none => none
    | some e => readBasicFrom multiline false (e :: found) rest
  | '\\' :: c :: rest =>
    match shortEscape c with
    | some e => readBasicFrom multiline false (e :: found) rest
    | none =>
      if multiline && restOfLineIsSpace (c :: rest) then
        readBasicFrom multiline true found (c :: rest)
      else none
  | '\r' :: '\n' :: rest =>
    if multiline then
      readBasicFrom multiline trimming (if trimming then found else '\n' :: found) rest
    else none
  | c :: rest =>
    if c = '\n' then
      if multiline then
        readBasicFrom multiline trimming (if trimming then found else '\n' :: found) rest
      else none
    else if trimming && isSpace c then readBasicFrom multiline trimming found rest
    else if isTextual c && c != '\\' then readBasicFrom multiline false (c :: found) rest
    else none

/-- Read the rest of a string in single quotes. -/
def readLiteralFrom (multiline : Bool) (found : List Char) :
    List Char → Option (List Char × List Char)
  | [] => none
  | '\'' :: rest =>
    if multiline then
      match rest with
      | '\'' :: '\'' :: '\'' :: '\'' :: rest => some (('\'' :: '\'' :: found).reverse, rest)
      | '\'' :: '\'' :: '\'' :: rest => some (('\'' :: found).reverse, rest)
      | '\'' :: '\'' :: rest => some (found.reverse, rest)
      | rest => readLiteralFrom multiline ('\'' :: found) rest
    else some (found.reverse, rest)
  | '\r' :: '\n' :: rest =>
    if multiline then readLiteralFrom multiline ('\n' :: found) rest else none
  | c :: rest =>
    if c = '\n' then
      if multiline then readLiteralFrom multiline ('\n' :: found) rest else none
    else if isTextual c then readLiteralFrom multiline (c :: found) rest
    else none

/-- Skip a line end, if there is one. -/
def skipFirstNewline (text : List Char) : List Char :=
  (skipNewline text).getD text

/-- Read a string of any kind. -/
def readString (text : List Char) : Option (List Char × List Char) :=
  match text with
  | '"' :: '"' :: '"' :: rest => readBasicFrom true false [] (skipFirstNewline rest)
  | '"' :: rest => readBasicFrom false false [] rest
  | '\'' :: '\'' :: '\'' :: rest => readLiteralFrom true [] (skipFirstNewline rest)
  | '\'' :: rest => readLiteralFrom false [] rest
  | _ => none

/-! ### Keys -/

/-- A character of a bare key. -/
def isKeyChar (c : Char) : Bool :=
  c.isAlphanum || c == '-' || c == '_'

/-- Read a key without dots: bare, or a string of one line. -/
def readSimpleKey (text : List Char) : Option (String × List Char) :=
  match text with
  | '"' :: rest => (readBasicFrom false false [] rest).map
      fun (found, rest) => (String.ofList found, rest)
  | '\'' :: rest => (readLiteralFrom false [] rest).map
      fun (found, rest) => (String.ofList found, rest)
  | text =>
    match text.takeWhile isKeyChar with
    | [] => none
    | found => some (String.ofList found, text.dropWhile isKeyChar)

/-- How many names a dotted key may have at most. -/
def maxKeyNames : Nat := 79

/-- Read the names of a dotted key, at most `room` of them, with the space around them. -/
def readNames : Nat → List Char → Option (List String × List Char)
  | 0, _ => none
  | room + 1, text =>
    match readSimpleKey (skipSpace text) with
    | none => none
    | some (name, rest) =>
      match skipSpace rest with
      | '.' :: rest => (readNames room rest).map fun (names, rest) => (name :: names, rest)
      | rest => some ([name], rest)

/-- Read a key: one name, or several with dots between them. -/
def readKey (text : List Char) : Option (List String × List Char) :=
  readNames maxKeyNames text

end QueryTail.Toml
