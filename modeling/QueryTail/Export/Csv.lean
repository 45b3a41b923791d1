import QueryTail.Text.Utf8

/-!
# Comma-separated values

Records of fields, as RFC 4180 describes them: commas between fields, each record on a line. A field
that holds a comma, a quote, a carriage return or a line feed is put between quotes, and a quote
inside it is written twice. Records end with a line feed.

The text is handed on through a buffer of fixed size. The two bytes of a doubled quote are never
parted; every other byte goes by itself. A full buffer is handed on when the next piece does not
fit into it, so the last one is handed on at the end only.
-/

namespace QueryTail.Csv

/-- A character that cannot stand in a field without quotes. -/
def isSpecial (c : Char) : Bool :=
  c == ',' || c == '"' || c == '\r' || c == '\n'

/-- A character inside a quoted field. -/
def quoteChar (c : Char) : List Char :=
  if c = '"' then ['"', '"'] else [c]

/-- The written form of a field. -/
def writeField (field : List Char) : List Char :=
  if field.any isSpecial then '"' :: (field.flatMap quoteChar ++ ['"']) else field

/-- The written form of the fields of a record, without the line end. -/
def writeFields : List (List Char) → List Char
  | [] => []
  | [field] => writeField field
  | field :: rest => writeField field ++ ',' :: writeFields rest

/-- The written form of a record. -/
def writeRecord (record : List (List Char)) : List Char :=
  writeFields record ++ ['\n']

/-- The written form of records. -/
def write (records : List (List (List Char))) : List Char :=
  records.flatMap writeRecord

/-! ### Buffering -/

/-- A text in pieces of one byte. -/
def byteAtoms (text : List Char) : List (List UInt8) :=
  (Text.utf8 text).map fun byte => [byte]

/-- The bytes of a character inside a quoted field, in pieces that are not parted. -/
def quotedAtoms (c : Char) : List (List UInt8) :=
  if c = '"' then [Text.utf8 ['"', '"']] else byteAtoms [c]

/-- The bytes of a field, in pieces that are not parted. -/
def fieldAtoms (field : List Char) : List (List UInt8) :=
  if field.any isSpecial then byteAtoms ['"'] ++ field.flatMap quotedAtoms ++ byteAtoms ['"']
  else byteAtoms field

/-- The bytes of a record's fields, in pieces that are not parted. -/
def fieldsAtoms : List (List Char) → List (List UInt8)
  | [] => []
  | [field] => fieldAtoms field
  | field :: rest => fieldAtoms field ++ byteAtoms [','] ++ fieldsAtoms rest

/-- The bytes of a record, in pieces that are not parted. -/
def recordAtoms (record : List (List Char)) : List (List UInt8) :=
  fieldsAtoms record ++ byteAtoms ['\n']

/-- The size of the buffer in bytes. -/
def bufferSize : Nat := 8192

/-- Fill buffers with pieces. `current` holds the bytes of the buffer that is being filled, last
first, `size` says how many they are, and `full` holds the buffers before it, last first. -/
def fill (limit : Nat) (current : List UInt8) (size : Nat) (full : List (List UInt8)) :
    List (List UInt8) → List (List UInt8)
  | [] => (current.reverse :: full).reverse
  | atom :: rest =>
    if size + atom.length ≤ limit then
      fill limit (atom.reverse ++ current) (size + atom.length) full rest
    else fill limit atom.reverse atom.length (current.reverse :: full) rest

/-- The buffers that records are handed on in. There is always at least one. -/
def buffers (records : List (List (List Char))) : List (List UInt8) :=
  fill bufferSize [] 0 [] (records.flatMap recordAtoms)

/-- A text is handed on byte by byte. -/
theorem flatten_byteAtoms (text : List Char) : (byteAtoms text).flatten = Text.utf8 text := by
  unfold byteAtoms
  induction Text.utf8 text with
  | nil => rfl
  | cons byte rest ih => simp [ih]

/-- Filling buffers loses nothing. -/
theorem flatten_fill (limit : Nat) (atoms : List (List UInt8)) (current : List UInt8) (size : Nat)
    (full : List (List UInt8)) :
    (fill limit current size full atoms).flatten =
      full.reverse.flatten ++ current.reverse ++ atoms.flatten := by
  induction atoms generalizing current size full with
  | nil => simp [fill]
  | cons atom rest ih =>
    unfold fill
    split <;> simp [ih]

/-! ### Reading -/

/-- Where a reader stands in a record. -/
inductive Place where
  /-- Before the first character of a field. -/
  | fieldStart
  /-- Inside a field without quotes. -/
  | bare
  /-- Between quotes. -/
  | quoted
  /-- After a quote that ends the field unless another quote follows. -/
  | afterQuote
  deriving DecidableEq

/-- What a reader has read so far; lists are kept last first. -/
structure Reading where
  place : Place
  field : List Char
  fields : List (List Char)
  records : List (List (List Char))

namespace Reading

/-- The reading before the first character. -/
def start : Reading := ⟨.fieldStart, [], [], []⟩

/-- End the field. -/
def endField (reading : Reading) : Reading :=
  ⟨.fieldStart, [], reading.field.reverse :: reading.fields, reading.records⟩

/-- End the field and the record. -/
def endRecord (reading : Reading) : Reading :=
  ⟨.fieldStart, [], [], (reading.field.reverse :: reading.fields).reverse :: reading.records⟩

/-- Keep a character as part of the field. -/
def keep (reading : Reading) (place : Place) (c : Char) : Reading :=
  { reading with place, field := c :: reading.field }

/-- Read a character; `none` if it cannot stand there. -/
def step (reading : Reading) (c : Char) : Option Reading :=
  match reading.place with
  | .quoted =>
    if c = '"' then some { reading with place := .afterQuote } else some (reading.keep .quoted c)
  | .afterQuote =>
    if c = '"' then some (reading.keep .quoted c)
    else if c = ',' then some reading.endField
    else if c = '\n' then some reading.endRecord
    else none
  | .fieldStart =>
    if c = '"' then some { reading with place := .quoted }
    else if c = ',' then some reading.endField
    else if c = '\n' then some reading.endRecord
    else if c = '\r' then none
    else some (reading.keep .bare c)
  | .bare =>
    if c = ',' then some reading.endField
    else if c = '\n' then some reading.endRecord
    else if c = '\r' ∨ c = '"' then none
    else some (reading.keep .bare c)

end Reading

/-- The records that a text denotes. Every record must end with a line feed. -/
def read? (text : List Char) : Option (List (List (List Char))) :=
  match text.foldlM Reading.step Reading.start with
  | some ⟨.fieldStart, [], [], records⟩ => some records.reverse
  | _ => none

end QueryTail.Csv
