import QueryTail.Json.NumberText

/-!
# Writing JSON

Two written forms of a value: the compact one, without any space, and the indented one, with two
spaces per level and every item and member on a line of its own. Only quotes, backslashes and
control characters below U+0020 are escaped.
-/

namespace QueryTail.Json

/-- The lower-case hexadecimal digit of a number below sixteen. -/
def lowerHex (n : Nat) : Char :=
  Nat.digitChar n

/-- A character as it is written inside a string. -/
def escapeChar (c : Char) : List Char :=
  if c = '"' then ['\\', '"']
  else if c = '\\' then ['\\', '\\']
  else if c = '\x08' then ['\\', 'b']
  else if c = '\x0c' then ['\\', 'f']
  else if c = '\n' then ['\\', 'n']
  else if c = '\r' then ['\\', 'r']
  else if c = '\t' then ['\\', 't']
  else if c.toNat < 0x20 then
    ['\\', 'u', '0', '0', lowerHex (c.toNat / 16), lowerHex (c.toNat % 16)]
  else [c]

/-- The written form of a string. -/
def quote (text : String) : List Char :=
  '"' :: (text.toList.flatMap escapeChar ++ ['"'])

mutual

/-- The compact form of a value. -/
def compact : Json → List Char
  | .null => "null".toList
  | .bool value => if value then "true".toList else "false".toList
  | .number value => value.text
  | .string value => quote value
  | .array items => '[' :: (compactItems items ++ [']'])
  | .object members => '{' :: (compactMembers members ++ ['}'])

/-- The compact form of the items of an array, without the brackets. -/
def compactItems : List Json → List Char
  | [] => []
  | [item] => compact item
  | item :: rest => compact item ++ ',' :: compactItems rest

/-- The compact form of the members of an object, without the braces. -/
def compactMembers : List (String × Json) → List Char
  | [] => []
  | [(name, value)] => quote name ++ ':' :: compact value
  | (name, value) :: rest => quote name ++ ':' :: (compact value ++ ',' :: compactMembers rest)

end

/-- A new line and the indentation of a level. -/
def newLine (level : Nat) : List Char :=
  '\n' :: List.replicate (2 * level) ' '

mutual

/-- The indented form of a value that starts at a level. -/
def indented (level : Nat) : Json → List Char
  | .array (first :: rest) =>
    '[' :: (indentedItems (level + 1) (first :: rest) ++ newLine level ++ [']'])
  | .object (first :: rest) =>
    '{' :: (indentedMembers (level + 1) (first :: rest) ++ newLine level ++ ['}'])
  | value => compact value

/-- The indented form of items, each on a new line. -/
def indentedItems (level : Nat) : List Json → List Char
  | [] => []
  | [item] => newLine level ++ indented level item
  | item :: rest => newLine level ++ indented level item ++ ',' :: indentedItems level rest

/-- The indented form of members, each on a new line. -/
def indentedMembers (level : Nat) : List (String × Json) → List Char
  | [] => []
  | [(name, value)] => newLine level ++ quote name ++ ':' :: ' ' :: indented level value
  | (name, value) :: rest =>
    newLine level ++ quote name ++ ':' :: ' ' ::
      (indented level value ++ ',' :: indentedMembers level rest)

end

/-- The compact text of a value. -/
def compress (value : Json) : String :=
  String.ofList (compact value)

/-- The indented text of a value, without a final newline. -/
def pretty (value : Json) : String :=
  String.ofList (indented 0 value)

end QueryTail.Json
