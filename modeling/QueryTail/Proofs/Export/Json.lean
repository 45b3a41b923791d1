import QueryTail.Export.Basic
import QueryTail.Proofs.Entry.Codec
import QueryTail.Proofs.Text.Utf8

/-!
# Exports as JSON read back

The bytes of an export as JSON are a text that denotes the entries of the rows, in their order
(`json_readBack`). The pieces in which it is written make up the indented form of one array; that
the indented form is read back is a fact about all forms.
-/

namespace QueryTail.Export

/-- The written forms of pieces follow one another. -/
theorem flatten_map_utf8 (pieces : List (List Char)) :
    (pieces.map Text.utf8).flatten = Text.utf8 pieces.flatten := by
  induction pieces with
  | nil => rfl
  | cons piece rest ih =>
    rw [List.map_cons, List.flatten_cons, ih, List.flatten_cons, Text.utf8_append]

/-- The pieces are those of the indented form. -/
theorem flatten_jsonPieces (rows : List Row) : (jsonPieces rows).flatten = jsonText rows :=
  Json.flatten_pieces 0 (toJson rows)

/-- Without a bound, all pieces are written and all rows are counted. -/
theorem json_unbounded (rows : List Row) (path : String) :
    json rows .unbounded path =
      (⟨none, ((jsonPieces rows).map Text.utf8).reverse⟩, .ok rows.length) := by
  rw [json, Sink.send_unbounded]

/-- An export into a sink without a limit gives the number of rows. If the entries were decoded,
there is no double in their payloads, and these leave room for one more container around them, then
its bytes are a text that denotes the entries of the rows, in their order. -/
theorem json_readBack (rows : List Row) (path : String)
    (decoded : ∀ row ∈ rows, ∃ text, Entry.decode? text = some row.entry)
    (whole : ∀ row ∈ rows, Json.membersHaveReal row.entry.payload = false)
    (shallow : ∀ row ∈ rows, (Json.object row.entry.payload).nesting < Json.maxDepth) :
    (json rows .unbounded path).2 = .ok rows.length ∧
    ∃ text, Text.ofUtf8? (json rows .unbounded path).1.content = some text ∧
      Entry.decodeArray? (String.ofList text) = some (rows.map Row.entry) := by
  have wellFormed : ∀ row ∈ rows, row.entry.WellFormed := by
    intro row among
    obtain ⟨text, decodes⟩ := decoded row among
    exact Entry.wellFormed_of_decode? decodes
  rw [json_unbounded]
  refine ⟨rfl, jsonText rows, ?_, ?_⟩
  · rw [Sink.content_reverse, flatten_map_utf8, flatten_jsonPieces, Text.ofUtf8?_utf8]
  · have same : jsonText rows =
        Json.Form.indented.body 0 (.array ((rows.map Row.entry).map Entry.toJson)) := by
      rw [List.map_map]
      rfl
    rw [same]
    exact Entry.decodeArray?_body .indented (List.forall_mem_map.mpr wellFormed)
      (List.forall_mem_map.mpr whole) (List.forall_mem_map.mpr shallow)

/-- Two rows of one entry. Its payload has an empty array and an empty object, names and texts with
escapes, and a whole number below zero. -/
theorem json_readBack_nested :
    let text := "\x7b\"sequence\":7,\"b\":[[],\x7b\"x\":[\x7b\x7d,-1]\x7d]," ++
      "\"a\\n\":\"\\u0001\\\\\"\x7d"
    ∃ entry, Entry.decode? text = some entry ∧ entry.payload.length = 2 ∧
      Json.membersHaveReal entry.payload = false ∧
      (Json.object entry.payload).nesting = 5 ∧
      (json [.ofEntry entry, .ofEntry entry] .unbounded "a.json").2 = .ok 2 ∧
      ∃ written,
        Text.ofUtf8? (json [.ofEntry entry, .ofEntry entry] .unbounded "a.json").1.content =
          some written ∧
        Entry.decodeArray? (String.ofList written) = some [entry, entry] := by
  intro text
  have decodes : (Entry.decode? text).map (fun entry =>
      (entry.payload.length, Json.membersHaveReal entry.payload,
        (Json.object entry.payload).nesting)) = some (2, false, 5) := by
    decide +kernel
  obtain ⟨entry, decoded, same⟩ := Option.map_eq_some_iff.mp decodes
  obtain ⟨size, same⟩ := Prod.mk.inj same
  obtain ⟨whole, nesting⟩ := Prod.mk.inj same
  have each : ∀ row ∈ [Row.ofEntry entry, Row.ofEntry entry], row.entry = entry := by
    simp
  obtain ⟨counted, written, read, back⟩ :=
    json_readBack [.ofEntry entry, .ofEntry entry] "a.json"
      (fun row among => ⟨text, (each row among) ▸ decoded⟩)
      (fun row among => (each row among) ▸ whole)
      (fun row among => (each row among) ▸ nesting ▸ by decide)
  exact ⟨entry, decoded, size, whole, nesting, counted, written, read, back⟩

end QueryTail.Export
