import QueryTail.Filter
import QueryTail.Json.Printer
import QueryTail.Json.Record

/-!
# Saved filters as JSON

A saved filter is written as an object with the members `source_ids`, `subject_search` and
`regex_pattern`. All of them may be missing when it is read.
-/

namespace QueryTail.SavedFilter

/-- The fields of a saved filter. -/
def fields (rounds : Nat) : List (Json.RecordField SavedFilter) :=
  [ ⟨"source_ids", fun filter text =>
      (Json.readTexts rounds text).map fun (sources, rest) => ({ filter with sources }, rest)⟩,
    ⟨"subject_search", fun filter text =>
      (Json.readText text).map fun (search, rest) => ({ filter with search }, rest)⟩,
    ⟨"regex_pattern", fun filter text =>
      (Json.readText text).map fun (pattern, rest) => ({ filter with pattern }, rest)⟩ ]

/-- Read a saved filter. -/
def read (rounds : Nat) (text : List Char) : Option (SavedFilter × List Char) :=
  Json.readRecord (fields rounds) none rounds text

/-- The saved filter that a JSON text denotes. -/
def decode? (text : String) : Option SavedFilter :=
  Json.readWhole read text

/-- The object of a saved filter. -/
def toJson (filter : SavedFilter) : Json :=
  .object
    [ ("source_ids", .array (filter.sources.map .string)),
      ("subject_search", .string filter.search),
      ("regex_pattern", .string filter.pattern) ]

end QueryTail.SavedFilter
