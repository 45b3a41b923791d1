import QueryTail.Entry.Basic
import QueryTail.Json.Printer
import QueryTail.Json.Reader

/-!
# Entries as JSON objects

An entry is written as an object whose first members are `sourceId`, `sequence`, `timestamp` and
`subject`; the payload's members follow. Reading asks for little: the sequence must be there, the
source and subject must be texts where they are present, and no field may occur twice. A timestamp
of any kind is accepted.

An array of entries is read in the same way, entry by entry, with one container less to spare for
each of them.
-/

namespace QueryTail

namespace Json

/-- Read an object as the list of its members in the order in which they are written, at a place
where `depth` containers may enclose one another. Only the members' values are reduced to values; a
repeated name stays repeated. -/
def readPairs (depth rounds : Nat) (text : List Char) :
    Option (List (String × Json) × List Char) :=
  match text with
  | '{' :: rest =>
    match depth with
    | 0 => none
    | depth + 1 =>
      let step (found : List (String × Json)) (name : String) (text : List Char) :=
        (readValue rounds depth text).map fun (value, rest) => ((name, value) :: found, rest)
      (foldObject step rounds [] rest).map fun (found, rest) => (found.reverse, rest)
  | _ => none

/-- The members of an object in the order in which its text lists them. -/
def parsePairs? (text : String) : Option (List (String × Json)) :=
  readWhole (readPairs maxDepth) text

end Json

namespace Entry

/-- The names of the fields that are not payload. -/
def fieldNames : List String :=
  ["sourceId", "sequence", "timestamp", "subject"]

/-- The value of a field, if it occurs; a field that occurs twice is refused. -/
def field (pairs : List (String × Json)) (name : String) : Option (Option Json) :=
  match pairs.filter fun pair => pair.1 == name with
  | [] => some none
  | [(_, value)] => some (some value)
  | _ => none

/-- The source: a text, or empty if absent. -/
def readSource : Option Json → Option String
  | none => some ""
  | some (.string source) => some source
  | some _ => none

/-- The sequence: a whole number of 64 bits. -/
def readSequence : Option Json → Option UInt64
  | some (.number (.integer value)) =>
    if 0 ≤ value ∧ value < UInt64.size then some (UInt64.ofNat value.toNat) else none
  | _ => none

/-- The subject: a text, or absent. -/
def readSubject : Option Json → Option (Option String)
  | none | some .null => some none
  | some (.string subject) => some (some subject)
  | some _ => none

/-- The timestamp: a text as it is, a number by its text, and nothing for any other value. -/
def readTimestamp : Option Json → Option String
  | some (.string timestamp) => some timestamp
  | some (.number value) => some (String.ofList value.text)
  | _ => none

/-- The entry that an object denotes, given the object's members in the order of its text. -/
def ofPairs? (pairs : List (String × Json)) : Option Entry := do
  let source ← readSource (← field pairs "sourceId")
  let sequence ← readSequence (← field pairs "sequence")
  let timestamp ← field pairs "timestamp"
  let subject ← readSubject (← field pairs "subject")
  let payload := pairs.filter fun pair => !fieldNames.contains pair.1
  some
    { source, sequence, subject
      timestamp := readTimestamp timestamp
      payload := Json.Members.ofList payload }

/-- The entry that a JSON text denotes. -/
def decode? (text : String) : Option Entry :=
  (Json.parsePairs? text).bind ofPairs?

/-- Read an entry at a place where `depth` containers may enclose one another. -/
def readAt (depth rounds : Nat) (text : List Char) : Option (Entry × List Char) := do
  let (pairs, rest) ← Json.readPairs depth rounds text
  some (← ofPairs? pairs, rest)

/-- Read an array of entries. -/
def readArray (rounds : Nat) : List Char → Option (List Entry × List Char)
  | '[' :: rest =>
    let step (found : List Entry) (text : List Char) :=
      (readAt (Json.maxDepth - 1) rounds text).map fun (entry, rest) => (entry :: found, rest)
    (Json.foldArray step rounds [] rest).map fun (found, rest) => (found.reverse, rest)
  | _ => none

/-- The entries that the text of a JSON array denotes. -/
def decodeArray? (text : String) : Option (List Entry) :=
  Json.readWhole readArray text

/-- An optional text as a JSON value. -/
def optionalText : Option String → Json
  | none => .null
  | some text => .string text

/-- The object of an entry. -/
def toJson (entry : Entry) : Json :=
  .object <|
    ("sourceId", .string entry.source) ::
    ("sequence", .natural entry.sequence.toNat) ::
    ("timestamp", optionalText entry.timestamp) ::
    ("subject", optionalText entry.subject) :: entry.payload

/-- The compact JSON text of an entry. -/
def encode (entry : Entry) : String :=
  entry.toJson.compress

/-- The compact JSON text of an entry's payload. -/
def payloadText (entry : Entry) : String :=
  Json.compress (.object entry.payload)

end Entry

end QueryTail
