import QueryTail.Entry.Codec
import QueryTail.Export.Csv
import QueryTail.Export.Sink
import QueryTail.Files.Actions
import QueryTail.Json.Pieces

/-!
# Exporting rows

The rows of a window as a text, newest first: as comma-separated values with a header, or as an
indented JSON array of entries. The format of a file goes by its extension.
-/

namespace QueryTail.Export

/-- The formats of an export. -/
inductive Format where
  | csv
  | json
  deriving DecidableEq, Repr

/-- The format of a file: JSON if its extension is `json` in any letter case, and otherwise
comma-separated values. -/
def Format.ofPath (path : String) : Format :=
  match FilePath.extension? path with
  | some extension => if extension.map Char.toLower = "json".toList then .json else .csv
  | none => .csv

/-! ### Comma-separated values -/

/-- The header of an export. -/
def header : List (List Char) :=
  ["timestamp", "source_id", "sequence", "subject", "payload"].map String.toList

/-- The fields of an entry. The timestamp is the text that the node sent; what is absent is
empty, and so is a payload without members. -/
def fieldsOf (entry : Entry) : List (List Char) :=
  [ (entry.timestamp.getD "").toList,
    entry.source.toList,
    Text.digits entry.sequence.toNat,
    (entry.subject.getD "").toList,
    if entry.payload.isEmpty then [] else entry.payloadText.toList ]

/-- The records of an export. -/
def records (rows : List Row) : List (List (List Char)) :=
  header :: rows.map fun row => fieldsOf row.entry

/-- The text of an export as comma-separated values. -/
def csvText (rows : List Row) : List Char :=
  Csv.write (records rows)

/-- Export rows as comma-separated values into a sink; gives their number. The writer reports a
refusal of any buffer but the last; the last is handed on when the export is finished. A buffer that
was refused is still there when the writer is closed, which offers it once more. -/
def csv (rows : List Row) (sink : Sink) (path : String) : Sink × Except ExportFault Nat :=
  match sink.send (Csv.buffers (records rows)) with
  | (sink, []) => (sink, .ok rows.length)
  | (sink, [last]) => (sink.offer last, .error (.file path Sink.refusal))
  | (sink, refused :: _) => (sink.offer refused, .error (.csv path Sink.refusal))

/-! ### JSON -/

/-- The array of the rows' entries. -/
def toJson (rows : List Row) : Json :=
  .array (rows.map fun row => row.entry.toJson)

/-- The text of an export as JSON. -/
def jsonText (rows : List Row) : List Char :=
  Json.indented 0 (toJson rows)

/-- The text of an export as JSON in the pieces in which it is written. -/
def jsonPieces (rows : List Row) : List (List Char) :=
  Json.pieces 0 (toJson rows)

/-- Export rows as JSON into a sink; gives their number. -/
def json (rows : List Row) (sink : Sink) (path : String) : Sink × Except ExportFault Nat :=
  match sink.send ((jsonPieces rows).map Text.utf8) with
  | (sink, []) => (sink, .ok rows.length)
  | (sink, _) => (sink, .error (.json path Sink.refusal))

/-! ### Either format -/

/-- The text of an export in a format. -/
def text : Format → List Row → List Char
  | .csv, rows => csvText rows
  | .json, rows => jsonText rows

/-- Export rows in a format into a sink; gives their number. -/
def into : Format → List Row → Sink → String → Sink × Except ExportFault Nat
  | .csv => csv
  | .json => json

/-- Export rows to a file, in the format of the file; gives their number. -/
def toFile {m : Type → Type} [Monad m] (files : FileActions m) (rows : List Row) (path : String) :
    m (Except ExportFault Nat) := do
  match ← files.write path (Text.utf8 (text (Format.ofPath path) rows)) with
  | .error cause => return .error (.file path cause)
  | .ok () => return .ok rows.length

end QueryTail.Export
