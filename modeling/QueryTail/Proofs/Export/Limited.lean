import QueryTail.Proofs.Export.Csv
import QueryTail.Proofs.Export.Json

/-!
# Exports into sinks with limited room

Whether an export succeeds depends on its length alone, and not on the pieces in which it is written
(`into_ofRoom`). If there is room for all of it, then all of it is written; otherwise the export
fails and a beginning of it is written. The beginning ends where a piece was larger than the room
that was left; that piece is refused again when it is offered again.
-/

namespace QueryTail

namespace Sink

variable {room : Nat} {taken : List (List UInt8)} {piece : List UInt8}

/-- A piece that fits is taken, and the room shrinks by its length. -/
theorem write_of_le (fits : piece.length ≤ room) :
    write ⟨some room, taken⟩ piece = some ⟨some (room - piece.length), piece :: taken⟩ :=
  if_pos fits

/-- A piece that does not fit is not taken at all. -/
theorem write_of_lt (large : room < piece.length) : write ⟨some room, taken⟩ piece = none :=
  if_neg (Nat.not_le.mpr large)

/-- A piece that was refused is refused again. -/
theorem offer_of_refused {sink : Sink} (refused : sink.write piece = none) :
    sink.offer piece = sink := by
  rw [offer, refused, Option.getD_none]

/-- What a sink took and what it did not take is all that was to be written, in order. -/
theorem content_send {sink after : Sink} {pieces left : List (List UInt8)}
    (sent : sink.send pieces = (after, left)) :
    after.content ++ left.flatten = sink.content ++ pieces.flatten := by
  induction pieces generalizing sink with
  | nil =>
    obtain ⟨rfl, rfl⟩ := Prod.mk.inj sent
    rfl
  | cons piece rest ih =>
    rw [send] at sent
    cases taken : sink.write piece with
    | none =>
      rw [taken] at sent
      obtain ⟨rfl, rfl⟩ := Prod.mk.inj sent
      rfl
    | some next =>
      rw [taken] at sent
      rw [ih sent, content_of_write taken, List.append_assoc, List.flatten_cons]

/-- Pieces for which there is room together are all taken. -/
theorem exists_send_of_le (taken : List (List UInt8)) {pieces : List (List UInt8)}
    (fits : pieces.flatten.length ≤ room) :
    ∃ after, send ⟨some room, taken⟩ pieces = (after, []) := by
  induction pieces generalizing room taken with
  | nil => exact ⟨_, rfl⟩
  | cons piece rest ih =>
    rw [List.flatten_cons, List.length_append] at fits
    rw [send, write_of_le (Nat.le_of_add_right_le fits)]
    exact ih _ (Nat.le_sub_of_add_le' fits)

/-- Of pieces for which there is no room together, one is refused, and it is not empty. -/
theorem exists_send_of_lt (taken : List (List UInt8)) {pieces : List (List UInt8)}
    (large : room < pieces.flatten.length) :
    ∃ after refused rest, send ⟨some room, taken⟩ pieces = (after, refused :: rest) ∧
      after.write refused = none ∧ refused ≠ [] := by
  induction pieces generalizing room taken with
  | nil => exact absurd large (Nat.not_lt_zero room)
  | cons piece rest ih =>
    rw [List.flatten_cons, List.length_append] at large
    by_cases fits : piece.length ≤ room
    · rw [send, write_of_le fits]
      exact ih _ (Nat.sub_lt_left_of_lt_add fits large)
    · have tooLarge := Nat.not_le.mp fits
      rw [send, write_of_lt tooLarge]
      exact ⟨⟨some room, taken⟩, piece, rest, rfl, write_of_lt tooLarge,
        List.ne_nil_of_length_pos (Nat.zero_lt_of_lt tooLarge)⟩

/-- Either there is room for everything and everything is taken, or there is not: then a piece is
refused, as often as it is offered, and what is in the sink is less than everything. -/
theorem send_ofRoom (room : Nat) (pieces : List (List UInt8)) :
    (pieces.flatten.length ≤ room ∧
      ∃ after, (ofRoom room).send pieces = (after, []) ∧ after.content = pieces.flatten) ∨
    (room < pieces.flatten.length ∧
      ∃ after refused rest, (ofRoom room).send pieces = (after, refused :: rest) ∧
        after.offer refused = after ∧
        after.content <+: pieces.flatten ∧ after.content ≠ pieces.flatten) := by
  rcases Nat.lt_or_ge room pieces.flatten.length with large | fits
  · obtain ⟨after, refused, rest, sent, again, notEmpty⟩ := exists_send_of_lt [] large
    have whole : after.content ++ (refused ++ rest.flatten) = pieces.flatten := content_send sent
    refine .inr ⟨large, after, refused, rest, sent, offer_of_refused again, ?_, ?_⟩
    · exact ⟨_, whole⟩
    · rw [← whole]
      intro same
      have nothing : refused ++ rest.flatten = [] := List.self_eq_append_right.mp same
      exact notEmpty (List.append_eq_nil_iff.mp nothing).1
  · obtain ⟨after, sent⟩ := exists_send_of_le [] fits
    have whole : after.content ++ [] = pieces.flatten := content_send sent
    rw [List.append_nil] at whole
    exact .inl ⟨fits, after, sent, whole⟩

end Sink

namespace Export

variable {format : Format} {rows : List Row} {path : String} {room : Nat}

/-- The pieces in which an export is written. -/
def piecesOf : Format → List Row → List (List UInt8)
  | .csv, rows => Csv.buffers (records rows)
  | .json, rows => (jsonPieces rows).map Text.utf8

/-- The pieces make up the text of the export. -/
theorem flatten_piecesOf (format : Format) (rows : List Row) :
    (piecesOf format rows).flatten = Text.utf8 (text format rows) := by
  cases format with
  | csv => exact Csv.flatten_buffers (records rows)
  | json => rw [piecesOf, flatten_map_utf8, flatten_jsonPieces, text]

/-- Without a bound, an export of either format writes all its pieces and counts all rows. -/
theorem into_unbounded (format : Format) (rows : List Row) (path : String) :
    into format rows .unbounded path =
      (⟨none, (piecesOf format rows).reverse⟩, .ok rows.length) := by
  cases format with
  | csv => exact csv_unbounded rows path
  | json => exact json_unbounded rows path

/-- An export succeeds if all its pieces are taken. -/
theorem into_of_send_nil {sink after : Sink} (path : String)
    (sent : sink.send (piecesOf format rows) = (after, [])) :
    into format rows sink path = (after, .ok rows.length) := by
  cases format with
  | csv =>
    rw [piecesOf] at sent
    rw [into, csv, sent]
  | json =>
    rw [piecesOf] at sent
    rw [into, json, sent]

/-- An export fails if a piece is refused however often it is offered, for the reason that the sink
gives. -/
theorem into_of_send_cons {sink after : Sink} {refused : List UInt8} {rest : List (List UInt8)}
    (path : String) (sent : sink.send (piecesOf format rows) = (after, refused :: rest))
    (again : after.offer refused = after) :
    ∃ fault, into format rows sink path = (after, .error fault) ∧ fault.cause = Sink.refusal := by
  cases format with
  | csv =>
    rw [piecesOf] at sent
    rw [into, csv, sent]
    cases rest with
    | nil => exact ⟨.file path Sink.refusal, congrArg (·, _) again, rfl⟩
    | cons second rest => exact ⟨.csv path Sink.refusal, congrArg (·, _) again, rfl⟩
  | json =>
    rw [piecesOf] at sent
    rw [into, json, sent]
    exact ⟨.json path Sink.refusal, rfl, rfl⟩

/-- What an export does in a sink with limited room depends on the length of its text, which is what
it writes into a sink without a limit. If there is room for the text, then the export gives the
number of rows and the sink holds the text. Otherwise the export fails, because the sink is full,
and the sink holds a beginning of the text but not all of it. -/
theorem into_ofRoom (format : Format) (rows : List Row) (path : String) (room : Nat) :
    let full := (into format rows .unbounded path).1.content
    let after := (into format rows (.ofRoom room) path).1
    let outcome := (into format rows (.ofRoom room) path).2
    (into format rows .unbounded path).2 = .ok rows.length ∧
    full = Text.utf8 (text format rows) ∧
    (outcome = .ok rows.length ↔ full.length ≤ room) ∧
    (full.length ≤ room → after.content = full) ∧
    (room < full.length →
      (∃ fault, outcome = .error fault ∧ fault.cause = Sink.refusal) ∧
      after.content <+: full ∧ after.content ≠ full) := by
  intro full after outcome
  have written : full = (piecesOf format rows).flatten := by
    unfold full
    rw [into_unbounded, Sink.content_reverse]
  refine ⟨by rw [into_unbounded], written.trans (flatten_piecesOf format rows), ?_⟩
  rcases Sink.send_ofRoom room (piecesOf format rows) with
    ⟨fits, holds, sent, content⟩ | ⟨large, holds, refused, rest, sent, again, isBeginning, partly⟩
  · have exported : into format rows (.ofRoom room) path = (holds, .ok rows.length) :=
      into_of_send_nil path sent
    have succeeds : outcome = .ok rows.length := congrArg Prod.snd exported
    have held : after = holds := congrArg Prod.fst exported
    rw [written, held]
    exact ⟨iff_of_true succeeds fits, fun _ => content, fun large => absurd fits (by omega)⟩
  · obtain ⟨fault, exported, cause⟩ := into_of_send_cons path sent again
    have fails : outcome = .error fault := congrArg Prod.snd exported
    have held : after = holds := congrArg Prod.fst exported
    rw [written, held]
    refine ⟨iff_of_false (fails ▸ nofun) (Nat.not_le.mpr large), fun fits => absurd fits (by omega),
      fun _ => ⟨⟨fault, fails, cause⟩, isBeginning, partly⟩⟩

end Export

end QueryTail
