import QueryTail.Json.Reader

/-!
# Reading records

A record is read either from an object, whose members may come in any order and of which the
unknown ones are passed over, or from an array that lists the fields in the order in which they are
declared. In either form fields may be missing at the reader's discretion: the record that reading
starts from holds what is assumed of them. A known field that occurs twice is refused, and so is an
item for which there is no field.
-/

namespace QueryTail.Json

/-- A field of a record: its name, and how its value is read into the record. -/
structure RecordField (σ : Type) where
  name : String
  read : σ → List Char → Option (σ × List Char)

/-- Read a member of an object into a record. The names of the fields read so far are kept. -/
def readMember {σ : Type} (fields : List (RecordField σ)) (rounds : Nat)
    (state : σ × List String) (name : String) (text : List Char) :
    Option ((σ × List String) × List Char) :=
  let (record, seen) := state
  match fields.find? fun field => field.name == name with
  | none => (skipValue rounds [] text).map fun rest => (state, rest)
  | some field =>
    if seen.contains name then none
    else (field.read record text).map fun (record, rest) => ((record, name :: seen), rest)

/-- Read an item of an array into the first of the fields that are still to come. -/
def readItem {σ : Type} (state : σ × List (RecordField σ)) (text : List Char) :
    Option ((σ × List (RecordField σ)) × List Char) :=
  match state with
  | (_, []) => none
  | (record, field :: later) =>
    (field.read record text).map fun (record, rest) => ((record, later), rest)

/-- Read a record, starting from the record that holds what is assumed of missing fields. -/
def readRecord {σ : Type} (fields : List (RecordField σ)) (start : σ) (rounds : Nat)
    (text : List Char) : Option (σ × List Char) :=
  match text with
  | '{' :: rest =>
    (foldObject (readMember fields rounds) rounds (start, []) rest).map
      fun (state, rest) => (state.1, rest)
  | '[' :: rest =>
    (foldArray readItem rounds (start, fields) rest).map fun (state, rest) => (state.1, rest)
  | _ => none

/-! ### Values of fields -/

/-- Read a string. -/
def readText : List Char → Option (String × List Char)
  | '"' :: rest => readString rest
  | _ => none

/-- Read an array of strings. -/
def readTexts (rounds : Nat) : List Char → Option (List String × List Char)
  | '[' :: rest =>
    let step (found : List String) (text : List Char) :=
      (readText text).map fun (item, rest) => (item :: found, rest)
    (foldArray step rounds [] rest).map fun (found, rest) => (found.reverse, rest)
  | _ => none

/-- Read a natural number below a bound. -/
def readBelow (bound : Nat) (text : List Char) : Option (Nat × List Char) :=
  match readScalar text with
  | some (.number (.integer value), rest) =>
    if 0 ≤ value ∧ value.toNat < bound then some (value.toNat, rest) else none
  | _ => none

/-- Read a word of 64 bits. -/
def readWord64 (text : List Char) : Option (UInt64 × List Char) :=
  (readBelow UInt64.size text).map fun (value, rest) => (value.toUInt64, rest)

/-- Read a word of 32 bits. -/
def readWord32 (text : List Char) : Option (UInt32 × List Char) :=
  (readBelow UInt32.size text).map fun (value, rest) => (value.toUInt32, rest)

end QueryTail.Json
