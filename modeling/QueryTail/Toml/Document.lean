import QueryTail.Toml.Number

/-!
# TOML documents

A document is read line by line into a tree of tables. Each table remembers how it came to be,
because that decides what may still be added to it: a table that has a header of its own takes no
second header, a table that was only passed on the way to another one may get its header later, and
a table that came about by dotted keys grows by dotted keys only.
-/

namespace QueryTail.Toml

/-- How a table came to be. -/
inductive Origin where
  /-- By a header of its own. -/
  | defined
  /-- As a step in the header of another table. -/
  | implied
  /-- As a step in a dotted key. -/
  | dotted
  deriving DecidableEq, Repr

/-- What a name of a table stands for while a document is read. -/
inductive Item where
  | value (value : Value)
  | table (origin : Origin) (items : List (String × Item))
  /-- The tables of an array that grows by headers, last first. -/
  | tables (elements : List (List (String × Item)))

/-- The names of a table and what they stand for. -/
abbrev Items := List (String × Item)

namespace Items

/-- Change what a name stands for; a new name comes last. The change may be refused. -/
def alter (name : String) (change : Option Item → Option Item) : Items → Option Items
  | [] => (change none).map fun item => [(name, item)]
  | (other, held) :: rest =>
    if other = name then (change (some held)).map fun item => (name, item) :: rest
    else (alter name change rest).map fun rest => (other, held) :: rest

/-- Change the table that a path of header names leads to. Tables that are missing are implied; of
an array of tables the last one counts. -/
def within (items : Items) (path : List String) (change : Items → Option Items) : Option Items :=
  match path with
  | [] => change items
  | name :: path =>
    alter name (fun
      | none => (within [] path change).map (Item.table .implied)
      | some (.value _) => none
      | some (.table origin inner) => (within inner path change).map (Item.table origin)
      | some (.tables []) => none
      | some (.tables (last :: before)) =>
        (within last path change).map fun last => .tables (last :: before)) items

/-- Add a value under a name that must be new. -/
def addValue (name : String) (value : Value) (items : Items) : Option Items :=
  alter name (fun
    | none => some (.value value)
    | some _ => none) items

/-- Add a value under a dotted key: the names before the last one lead to a table that must have
come about by dotted keys too. `origin` is that of the table at hand. -/
def addDotted (origin : Origin) (items : Items) (path : List String) (name : String)
    (value : Value) : Option Items :=
  match path with
  | [] => if origin = .dotted then addValue name value items else none
  | step :: path =>
    alter step (fun
      | none => (addDotted .dotted [] path name value).map (Item.table .dotted)
      | some (.value _) => none
      | some (.table .defined _) => none
      | some (.table origin inner) =>
        (addDotted origin inner path name value).map (Item.table origin)
      | some (.tables []) => none
      | some (.tables (last :: before)) =>
        (addDotted .defined last path name value).map fun last => .tables (last :: before)) items

/-- Add a value under a key of one or more names. -/
def add (items : Items) (key : List String) (value : Value) : Option Items :=
  match key.reverse with
  | [] => none
  | [name] => addValue name value items
  | name :: before => addDotted .defined items before.reverse name value

/-- Give a table its header. -/
def openTable (name : String) (items : Items) : Option Items :=
  alter name (fun
    | none => some (.table .defined [])
    | some (.table .implied inner) => some (.table .defined inner)
    | some _ => none) items

/-- Begin another table of an array. -/
def openElement (name : String) (items : Items) : Option Items :=
  alter name (fun
    | none => some (.tables [[]])
    | some (.tables elements) => some (.tables ([] :: elements))
    | some _ => none) items

end Items

mutual

/-- The value of an item. -/
def Item.toValue : Item → Value
  | .value value => value
  | .table _ items => .table (itemsToMembers items)
  | .tables elements => .array (elementsToValues [] elements)

/-- The members of a table. -/
def itemsToMembers : List (String × Item) → List (String × Value)
  | [] => []
  | (name, item) :: rest => (name, item.toValue) :: itemsToMembers rest

/-- The values of tables that are given last first, in front of other values. -/
def elementsToValues (later : List Value) : List (List (String × Item)) → List Value
  | [] => later
  | items :: before => elementsToValues (.table (itemsToMembers items) :: later) before

end

/-! ### Values -/

/-- How many arrays and tables between braces may enclose one another. -/
def maxDepth : Nat := 79

/-- Read the items of an array, after its opening bracket. -/
def readItems (read : List Char → Option (Value × List Char)) :
    Nat → List Value → List Char → Option (List Value × List Char)
  | 0, _, _ => none
  | rounds + 1, found, text =>
    match skipLines text with
    | ']' :: rest => some (found.reverse, rest)
    | text =>
      match read text with
      | none => none
      | some (value, rest) =>
        match skipLines rest with
        | ',' :: rest => readItems read rounds (value :: found) rest
        | ']' :: rest => some ((value :: found).reverse, rest)
        | _ => none

/-- Read the members of a table between braces, of which at least one is still to come. -/
def readBraced (read : List Char → Option (Value × List Char)) :
    Nat → Items → List Char → Option (Items × List Char)
  | 0, _, _ => none
  | rounds + 1, items, text => do
    let (key, rest) ← readKey text
    let rest ← Text.readChar '=' rest
    let (value, rest) ← read (skipSpace rest)
    let items ← items.add key value
    match skipSpace rest with
    | ',' :: rest => readBraced read rounds items rest
    | '}' :: rest => some (items, rest)
    | _ => none

/-- Read a word and give a value for it. -/
def readWord (word : String) (value : Value) (text : List Char) : Option (Value × List Char) :=
  if word.toList.isPrefixOf text then some (value, text.drop word.length) else none

/-- Read a value that is no container. -/
def readScalar (text : List Char) : Option (Value × List Char) :=
  match text with
  | '"' :: _ | '\'' :: _ =>
    (readString text).map fun (found, rest) => (.string (String.ofList found), rest)
  | 't' :: _ => readWord "true" (.boolean true) text
  | 'f' :: _ => readWord "false" (.boolean false) text
  | text => readNumeric text

/-- Read a value in which at most `depth` containers enclose one another. -/
def readValue (rounds : Nat) : Nat → List Char → Option (Value × List Char)
  | depth, '[' :: rest =>
    match depth with
    | 0 => none
    | depth + 1 =>
      (readItems (readValue rounds depth) rounds [] rest).map
        fun (items, rest) => (.array items, rest)
  | depth, '{' :: rest =>
    match depth with
    | 0 => none
    | depth + 1 =>
      match skipSpace rest with
      | '}' :: rest => some (.table [], rest)
      | rest =>
        (readBraced (readValue rounds depth) rounds [] rest).map
          fun (items, rest) => (.table (itemsToMembers items), rest)
  | _, text => readScalar text

/-! ### Lines -/

/-- A document of which some lines were read: the tree so far, and the header of the table to which
the next keys belong. -/
structure Draft where
  items : Items
  header : List String

/-- Split a key before its last name. -/
def splitLast (key : List String) : Option (List String × String) :=
  match key.reverse with
  | [] => none
  | name :: before => some (before.reverse, name)

/-- Read a header after its opening brackets. -/
def readHeader (draft : Draft) (isElement : Bool) (text : List Char) :
    Option (Draft × List Char) := do
  let (key, rest) ← readKey text
  let rest ← Text.readChar ']' rest
  let rest ← if isElement then Text.readChar ']' rest else some rest
  let rest ← endLine rest
  let (path, name) ← splitLast key
  let items ← draft.items.within path
    (if isElement then Items.openElement name else Items.openTable name)
  some (⟨items, key⟩, rest)

/-- Read a key and its value. -/
def readAssignment (rounds : Nat) (draft : Draft) (text : List Char) :
    Option (Draft × List Char) := do
  let (key, rest) ← readKey text
  let rest ← Text.readChar '=' rest
  let (value, rest) ← readValue rounds maxDepth (skipSpace rest)
  let rest ← endLine rest
  let items ← draft.items.within draft.header fun items => items.add key value
  some (⟨items, draft.header⟩, rest)

/-- Read one line that is not at the end of the document. -/
def readLine (rounds : Nat) (draft : Draft) (text : List Char) : Option (Draft × List Char) :=
  match text with
  | '#' :: _ => (endLine text).map fun rest => (draft, rest)
  | '\n' :: _ | '\r' :: _ => (skipNewline text).map fun rest => (draft, rest)
  | '[' :: '[' :: rest => readHeader draft true rest
  | '[' :: rest => readHeader draft false rest
  | text => readAssignment rounds draft text

/-- Read lines to the end of the document. -/
def readLines (total : Nat) : Nat → Draft → List Char → Option Draft
  | 0, _, _ => none
  | rounds + 1, draft, text =>
    match skipSpace text with
    | [] => some draft
    | text =>
      match readLine total draft text with
      | none => none
      | some (draft, rest) => readLines total rounds draft rest

/-- A text without the mark of its encoding, if it starts with one. -/
def skipMark : List Char → List Char
  | '\uFEFF' :: rest => rest
  | text => text

/-- The members of the table that a document denotes. -/
def parse? (text : String) : Option Members :=
  let body := skipMark text.toList
  let total := body.length + 1
  (readLines total total ⟨[], []⟩ body).map fun draft => itemsToMembers draft.items

end QueryTail.Toml
