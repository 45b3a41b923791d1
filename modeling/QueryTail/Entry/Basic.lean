import QueryTail.Json.Basic
import QueryTail.Time.Timestamp

/-!
# Query-log entries

One event that a node reports, its identity, and its place in a window. Only the identity fields
are interpreted; everything else a node sends is carried along as the payload.
-/

namespace QueryTail

/-- One event of a node's query log. -/
structure Entry where
  /-- The node that reported the event. -/
  source : String
  /-- A counter that the node assigns; it may repeat across nodes. -/
  sequence : UInt64
  /-- The timestamp as the node wrote it. -/
  timestamp : Option String
  /-- The queried name or the like. -/
  subject : Option String
  /-- All other fields. -/
  payload : Json.Members

/-- What makes two deliveries the same event: all fields but the payload. The timestamp counts by
its text, so that two spellings of one instant are two events. -/
structure Key where
  source : String
  sequence : UInt64
  timestamp : Option String
  subject : Option String
  deriving DecidableEq, Hashable, Repr

/-- An entry together with the instant that its timestamp resolves to. -/
structure Row where
  entry : Entry
  resolved : Option Time.Instant

/-- The identity of an entry. -/
def Entry.key (entry : Entry) : Key :=
  ⟨entry.source, entry.sequence, entry.timestamp, entry.subject⟩

/-- The instant of an entry, if it has a timestamp and that resolves. -/
def Entry.resolved (entry : Entry) : Option Time.Instant :=
  entry.timestamp.bind Time.Timestamp.resolve

/-- The text of a key: source, sequence and timestamp, or a hyphen for no timestamp. -/
def Key.text (key : Key) : String :=
  key.source ++ "#" ++ toString key.sequence.toNat ++ "@" ++ key.timestamp.getD "-"

namespace Row

/-- The row of an entry. -/
def ofEntry (entry : Entry) : Row :=
  ⟨entry, entry.resolved⟩

/-- The identity of the entry of a row. -/
def key (row : Row) : Key :=
  row.entry.key

@[simp] theorem key_ofEntry (entry : Entry) : (ofEntry entry).key = entry.key := rfl

@[simp] theorem entry_ofEntry (entry : Entry) : (ofEntry entry).entry = entry := rfl

@[simp] theorem resolved_ofEntry (entry : Entry) : (ofEntry entry).resolved = entry.resolved := rfl

/-- A text with spaces behind it up to a width in characters. -/
def padded (width : Nat) (text : String) : String :=
  text ++ String.ofList (List.replicate (width - text.length) ' ')

/-- The line that the console shows for a row: the instant, or else the timestamp as written, then
source, sequence and subject, with a hyphen for what is absent. -/
def line (row : Row) : String :=
  let time := match row.resolved with
    | some instant => String.ofList instant.display
    | none => row.entry.timestamp.getD "-"
  time ++ "  " ++ padded 12 row.entry.source ++ " #" ++
    padded 8 (toString row.entry.sequence.toNat) ++ " " ++ row.entry.subject.getD "-"

end Row

end QueryTail
