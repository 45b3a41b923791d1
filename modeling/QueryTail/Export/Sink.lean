import QueryTail.Fault

/-!
# Sinks with limited room

Where an export goes. A sink takes what is written to it whole or not at all: a piece that is larger
than the room that is left is refused, and nothing of it is kept. Writers hand their text over in
pieces, so a refused piece leaves a beginning of the text in the sink.
-/

namespace QueryTail

/-- What was written to a sink, and how much more it takes. -/
structure Sink where
  /-- How many bytes are still taken; `none` means any number. -/
  room : Option Nat
  /-- The pieces taken so far, last first. -/
  taken : List (List UInt8)

namespace Sink

/-- An empty sink that takes any number of bytes. -/
def unbounded : Sink := ⟨none, []⟩

/-- An empty sink that takes so many bytes. -/
def ofRoom (room : Nat) : Sink := ⟨some room, []⟩

/-- The bytes in the sink. -/
def content (sink : Sink) : List UInt8 :=
  sink.taken.reverse.flatten

/-- Why a sink refuses a piece. -/
def refusal : FileCause := .other "sink full"

/-- Write one piece, unless it is too large. -/
def write (sink : Sink) (piece : List UInt8) : Option Sink :=
  match sink.room with
  | none => some ⟨none, piece :: sink.taken⟩
  | some room =>
    if piece.length ≤ room then some ⟨some (room - piece.length), piece :: sink.taken⟩ else none

/-- Write pieces in order until one is refused. Gives the pieces that the sink did not take. -/
def send (sink : Sink) : List (List UInt8) → Sink × List (List UInt8)
  | [] => (sink, [])
  | piece :: rest =>
    match sink.write piece with
    | some sink => sink.send rest
    | none => (sink, piece :: rest)

/-- Write one piece once more after it was refused, and let it go if it is refused again. -/
def offer (sink : Sink) (piece : List UInt8) : Sink :=
  (sink.write piece).getD sink

/-- A piece that is taken stands at the end of what is in the sink. -/
theorem content_of_write {sink after : Sink} {piece : List UInt8}
    (taken : sink.write piece = some after) : after.content = sink.content ++ piece := by
  unfold write at taken
  split at taken
  · obtain rfl := Option.some.inj taken
    simp [content]
  · split at taken
    · obtain rfl := Option.some.inj taken
      simp [content]
    · simp at taken

/-- A sink without a limit takes all pieces. -/
theorem send_of_room_eq_none {sink : Sink} (unlimited : sink.room = none)
    (pieces : List (List UInt8)) :
    sink.send pieces = (⟨none, pieces.reverse ++ sink.taken⟩, []) := by
  induction pieces generalizing sink with
  | nil =>
    obtain ⟨room, taken⟩ := sink
    subst unlimited
    rfl
  | cons piece rest ih =>
    have takes : sink.write piece = some ⟨none, piece :: sink.taken⟩ := by
      rw [write, unlimited]
    rw [send, takes]
    dsimp only
    rw [ih rfl, List.reverse_cons, List.append_assoc, List.singleton_append]

@[simp] theorem send_unbounded (pieces : List (List UInt8)) :
    unbounded.send pieces = (⟨none, pieces.reverse⟩, []) := by
  rw [send_of_room_eq_none rfl]
  exact congrArg (fun taken => (Sink.mk none taken, [])) (List.append_nil _)

/-- What was sent is in the sink, however it was cut into pieces. -/
@[simp] theorem content_reverse (room : Option Nat) (pieces : List (List UInt8)) :
    content ⟨room, pieces.reverse⟩ = pieces.flatten := by
  rw [content, List.reverse_reverse]

end Sink

end QueryTail
