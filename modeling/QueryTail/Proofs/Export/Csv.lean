import QueryTail.Export.Basic
import QueryTail.Proofs.Text.Utf8

/-!
# Comma-separated values read back

Whatever characters are in the fields, the records that are written are the records that are read
(`Csv.read?_write`). For rows this means that the bytes of an export hold a header and one record of
five fields for each row, and that these can be told apart whatever nodes have sent
(`Export.csv_readBack`).

A field ends where the reader is in front of a field, in a field without quotes or after a closing
quote; the proof follows the reader to that place through each of the two written forms of a field.
-/

namespace QueryTail

namespace Csv

variable {c : Char} {place : Place} {field text rest : List Char}
  {fields record : List (List Char)} {records : List (List (List Char))}

/-! ### Fields -/

namespace Reading

/-- A character that needs no quotes is none of comma, quote, carriage return and line feed. -/
theorem isSpecial_eq_false_iff :
    isSpecial c = false ↔ c ≠ ',' ∧ c ≠ '"' ∧ c ≠ '\r' ∧ c ≠ '\n' := by
  simp [isSpecial, and_assoc]

/-- A plain character starts a bare field. -/
theorem step_fieldStart (plain : isSpecial c = false) :
    step ⟨.fieldStart, field, fields, records⟩ c = some ⟨.bare, c :: field, fields, records⟩ := by
  obtain ⟨noComma, noQuote, noReturn, noLineFeed⟩ := isSpecial_eq_false_iff.mp plain
  simp [step, keep, noComma, noQuote, noReturn, noLineFeed]

/-- A plain character goes on with a bare field. -/
theorem step_bare (plain : isSpecial c = false) :
    step ⟨.bare, field, fields, records⟩ c = some ⟨.bare, c :: field, fields, records⟩ := by
  obtain ⟨noComma, noQuote, noReturn, noLineFeed⟩ := isSpecial_eq_false_iff.mp plain
  simp [step, keep, noComma, noQuote, noReturn, noLineFeed]

/-- A plain text is read whole into a bare field. -/
theorem foldlM_bare (plain : ∀ c ∈ text, isSpecial c = false) :
    text.foldlM step ⟨.bare, field, fields, records⟩ =
      some ⟨.bare, text.reverse ++ field, fields, records⟩ := by
  induction text generalizing field with
  | nil => rfl
  | cons c text ih =>
    obtain ⟨first, others⟩ := List.forall_mem_cons.mp plain
    rw [List.foldlM_cons, step_bare first, Option.bind_eq_bind, Option.bind_some, ih others,
      List.reverse_cons, List.append_assoc, List.singleton_append]

/-- Between quotes each character, a doubled quote too, is read as the one it was written for. -/
theorem foldlM_quoteChar (c : Char) :
    (quoteChar c).foldlM step ⟨.quoted, field, fields, records⟩ =
      some ⟨.quoted, c :: field, fields, records⟩ := by
  unfold quoteChar
  split
  · next same =>
    subst same
    rfl
  · next noQuote => simp [step, keep, noQuote]

/-- A text with its quotes doubled is read whole into a quoted field. -/
theorem foldlM_quoted (text : List Char) :
    (text.flatMap quoteChar).foldlM step ⟨.quoted, field, fields, records⟩ =
      some ⟨.quoted, text.reverse ++ field, fields, records⟩ := by
  induction text generalizing field with
  | nil => rfl
  | cons c text ih =>
    rw [List.flatMap_cons, List.foldlM_append, foldlM_quoteChar, Option.bind_eq_bind,
      Option.bind_some, ih, List.reverse_cons, List.append_assoc, List.singleton_append]

/-- A field is read as it was written, up to a place where it can end. -/
theorem exists_foldlM_writeField (field : List Char) (fields : List (List Char))
    (records : List (List (List Char))) :
    ∃ place, place ≠ .quoted ∧
      (writeField field).foldlM step ⟨.fieldStart, [], fields, records⟩ =
        some ⟨place, field.reverse, fields, records⟩ := by
  unfold writeField
  split
  · refine ⟨.afterQuote, by decide, ?_⟩
    have opens : step ⟨.fieldStart, [], fields, records⟩ '"' =
        some ⟨.quoted, [], fields, records⟩ := rfl
    rw [List.foldlM_cons, opens, Option.bind_eq_bind, Option.bind_some, List.foldlM_append,
      foldlM_quoted, List.append_nil]
    rfl
  · next plain =>
    rw [Bool.not_eq_true, List.any_eq_false] at plain
    cases field with
    | nil => exact ⟨.fieldStart, by decide, rfl⟩
    | cons c text =>
      obtain ⟨first, others⟩ := List.forall_mem_cons.mp plain
      refine ⟨.bare, by decide, ?_⟩
      rw [List.foldlM_cons, step_fieldStart (Bool.eq_false_iff.mpr first), Option.bind_eq_bind,
        Option.bind_some, foldlM_bare fun c among => Bool.eq_false_iff.mpr (others c among),
        List.reverse_cons]

/-- A comma ends a field, except inside quotes. -/
theorem step_comma (ends : place ≠ .quoted) :
    step ⟨place, field, fields, records⟩ ',' =
      some ⟨.fieldStart, [], field.reverse :: fields, records⟩ := by
  cases place with
  | quoted => exact absurd rfl ends
  | fieldStart => rfl
  | bare => rfl
  | afterQuote => rfl

/-- A line feed ends a field and its record, except inside quotes. -/
theorem step_lineFeed (ends : place ≠ .quoted) :
    step ⟨place, field, fields, records⟩ '\n' =
      some ⟨.fieldStart, [], [], (field.reverse :: fields).reverse :: records⟩ := by
  cases place with
  | quoted => exact absurd rfl ends
  | fieldStart => rfl
  | bare => rfl
  | afterQuote => rfl

/-! ### Records -/

/-- A field written before a comma is read back. -/
theorem foldlM_writeField_comma :
    (writeField field ++ ',' :: rest).foldlM step ⟨.fieldStart, [], fields, records⟩ =
      rest.foldlM step ⟨.fieldStart, [], field :: fields, records⟩ := by
  obtain ⟨place, ends, reads⟩ := exists_foldlM_writeField field fields records
  rw [List.foldlM_append, reads, Option.bind_eq_bind, Option.bind_some, List.foldlM_cons,
    step_comma ends, List.reverse_reverse]
  rfl

/-- A field written before a line feed is read back, and its record ends. -/
theorem foldlM_writeField_lineFeed :
    (writeField field ++ '\n' :: rest).foldlM step ⟨.fieldStart, [], fields, records⟩ =
      rest.foldlM step ⟨.fieldStart, [], [], (field :: fields).reverse :: records⟩ := by
  obtain ⟨place, ends, reads⟩ := exists_foldlM_writeField field fields records
  rw [List.foldlM_append, reads, Option.bind_eq_bind, Option.bind_some, List.foldlM_cons,
    step_lineFeed ends, List.reverse_reverse]
  rfl

/-- The fields of a record are read back in order, and the record ends. -/
theorem foldlM_writeFields (present : record ≠ []) :
    (writeFields record ++ '\n' :: rest).foldlM step ⟨.fieldStart, [], fields, records⟩ =
      rest.foldlM step ⟨.fieldStart, [], [], (fields.reverse ++ record) :: records⟩ := by
  induction record generalizing fields with
  | nil => exact absurd rfl present
  | cons field others ih =>
    cases others with
    | nil => rw [writeFields, foldlM_writeField_lineFeed, List.reverse_cons]
    | cons second others =>
      rw [writeFields, List.append_assoc, List.cons_append, foldlM_writeField_comma,
        ih (List.cons_ne_nil _ _), List.reverse_cons, List.append_assoc, List.singleton_append]
      exact List.cons_ne_nil _ _

/-- Records are read back in order, after those read before. -/
theorem foldlM_write (present : ∀ record ∈ records, record ≠ [])
    (before : List (List (List Char))) :
    (write records).foldlM step ⟨.fieldStart, [], [], before⟩ =
      some ⟨.fieldStart, [], [], records.reverse ++ before⟩ := by
  induction records generalizing before with
  | nil => rfl
  | cons record records ih =>
    obtain ⟨first, others⟩ := List.forall_mem_cons.mp present
    rw [write, List.flatMap_cons, writeRecord, List.append_assoc, List.singleton_append,
      foldlM_writeFields first, ← write, ih others, List.reverse_nil, List.nil_append,
      List.reverse_cons, List.append_assoc, List.singleton_append]

end Reading

/-- Records that are written are read back, if none is without fields. -/
theorem read?_write (present : ∀ record ∈ records, record ≠ []) :
    read? (write records) = some records := by
  rw [read?, Reading.start, Reading.foldlM_write present]
  exact congrArg some (by rw [List.append_nil, List.reverse_reverse])

/-! ### Bytes -/

/-- The pieces of a character between quotes are the bytes of its doubled form. -/
theorem flatten_quotedAtoms (c : Char) : (quotedAtoms c).flatten = Text.utf8 (quoteChar c) := by
  unfold quotedAtoms quoteChar
  split
  · exact List.append_nil _
  · exact flatten_byteAtoms [c]

/-- The pieces of a field are the bytes of its written form. -/
theorem flatten_fieldAtoms (field : List Char) :
    (fieldAtoms field).flatten = Text.utf8 (writeField field) := by
  have quoted : (field.flatMap quotedAtoms).flatten = Text.utf8 (field.flatMap quoteChar) := by
    induction field with
    | nil => rfl
    | cons c field ih =>
      rw [List.flatMap_cons, List.flatten_append, flatten_quotedAtoms, ih, ← Text.utf8_append,
        List.flatMap_cons]
  unfold fieldAtoms writeField
  split
  · rw [List.flatten_append, List.flatten_append, flatten_byteAtoms, quoted, ← Text.utf8_append,
      ← Text.utf8_append]
    rfl
  · exact flatten_byteAtoms field

/-- The pieces of a record are the bytes of its written form. -/
theorem flatten_fieldsAtoms (record : List (List Char)) :
    (fieldsAtoms record).flatten = Text.utf8 (writeFields record) := by
  induction record with
  | nil => rfl
  | cons field others ih =>
    cases others with
    | nil => exact flatten_fieldAtoms field
    | cons second others =>
      rw [fieldsAtoms, writeFields, List.flatten_append, List.flatten_append, ih,
        flatten_fieldAtoms, flatten_byteAtoms, ← Text.utf8_append, ← Text.utf8_append,
        List.append_assoc, List.singleton_append]
      · exact List.cons_ne_nil _ _
      · exact List.cons_ne_nil _ _

/-- The buffers hold the written form of the records. -/
theorem flatten_buffers (records : List (List (List Char))) :
    (buffers records).flatten = Text.utf8 (write records) := by
  rw [buffers, flatten_fill, List.reverse_nil, List.flatten_nil, List.reverse_nil, List.nil_append,
    List.nil_append]
  induction records with
  | nil => rfl
  | cons record records ih =>
    rw [List.flatMap_cons, List.flatten_append, ih, recordAtoms, List.flatten_append,
      flatten_fieldsAtoms, flatten_byteAtoms, ← Text.utf8_append, ← Text.utf8_append]
    rfl

/-- A quote, a line end and an empty field. -/
example : write [["a\"b".toList, [], "c\n".toList]] = "\"a\"\"b\",,\"c\n\"\n".toList := by
  decide

end Csv

namespace Export

/-- What is told of an entry, column by column: what is absent is empty, and so is a payload without
members. -/
def columns (entry : Entry) : List String :=
  [ entry.timestamp.getD "", entry.source, toString entry.sequence.toNat, entry.subject.getD "",
    if entry.payload.isEmpty then "" else entry.payloadText ]

/-- The fields of an entry are the texts of its columns. -/
theorem fieldsOf_eq (entry : Entry) : fieldsOf entry = (columns entry).map String.toList := by
  have sequence : Text.digits entry.sequence.toNat = (toString entry.sequence.toNat).toList :=
    (String.toList_ofList).symm
  unfold fieldsOf columns
  rw [sequence]
  cases entry.payload.isEmpty <;> rfl

/-- Without a bound, all buffers are written and all rows are counted. -/
theorem csv_unbounded (rows : List Row) (path : String) :
    csv rows .unbounded path =
      (⟨none, (Csv.buffers (records rows)).reverse⟩, .ok rows.length) := by
  rw [csv, Sink.send_unbounded]

/-- An export into a sink without a limit gives the number of rows. Its bytes are a text that holds
a header and, row by row, one record of the five columns, whatever characters are in them. -/
theorem csv_readBack (rows : List Row) (path : String) :
    let found := ["timestamp", "source_id", "sequence", "subject", "payload"] ::
      rows.map fun row => columns row.entry
    (csv rows .unbounded path).2 = .ok rows.length ∧
    (∃ text, Text.ofUtf8? (csv rows .unbounded path).1.content = some text ∧
      Csv.read? text = some (found.map (·.map String.toList))) ∧
    found.length = 1 + rows.length ∧ ∀ record ∈ found, record.length = 5 := by
  intro found
  have same : records rows = found.map (·.map String.toList) := by
    rw [records, List.map_cons, List.map_map]
    exact congrArg (header :: ·) (List.map_congr_left fun row _ => fieldsOf_eq row.entry)
  have width : ∀ record ∈ found, record.length = 5 := by
    refine List.forall_mem_cons.mpr ⟨rfl, fun record among => ?_⟩
    obtain ⟨row, -, rfl⟩ := List.mem_map.mp among
    rfl
  rw [csv_unbounded]
  refine ⟨rfl, ⟨Csv.write (records rows), ?_, ?_⟩, ?_, width⟩
  · rw [Sink.content_reverse, Csv.flatten_buffers, Text.ofUtf8?_utf8]
  · rw [← same, Csv.read?_write]
    intro record among
    rw [same] at among
    obtain ⟨strings, listed, rfl⟩ := List.mem_map.mp among
    have five := width strings listed
    rintro empty
    rw [List.map_eq_nil_iff.mp empty] at five
    cases five
  · rw [List.length_cons, List.length_map, Nat.add_comm]

end Export

end QueryTail
