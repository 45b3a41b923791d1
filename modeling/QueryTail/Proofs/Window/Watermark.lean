import Mathlib.Data.List.DropRight
import QueryTail.Proofs.Window.Invariant

/-!
# The watermark over a run

The watermark is taken from the first row, and rows come and go. Still it forgets nothing that was
delivered since the rows were last dropped: it is the last instant of all those entries, whether or
not their rows are still held (`watermark_run`).

Each operation that keeps the rows raises the watermark to the last instant that it delivers, and
no further (`WellFormed.latest_apply`): the first row is never cut, and an entry that is passed over
has a row already.
-/

namespace QueryTail

open Time

namespace Window

variable {window : Window} {entries : List Entry} {operation : Operation}
  {operations : List Operation} {bound : WithBot Instant}

/-- The operation drops every row. -/
def Operation.resets : Operation → Bool
  | .setCapacity _ .reset => true
  | _ => false

/-- The entries that an operation delivers. -/
def Operation.delivers : Operation → List Entry
  | .merge page => page
  | .setCapacity _ _ => []

/-- The entries delivered since the run began or, if it dropped its rows, since it last did. -/
def deliveredSinceReset (operations : List Operation) : List Entry :=
  (operations.rtakeWhile fun operation => !operation.resets).flatMap Operation.delivers

/-- After a reset nothing was delivered. -/
theorem deliveredSinceReset_concat_of_resets (resets : operation.resets = true) :
    deliveredSinceReset (operations ++ [operation]) = [] := by
  rw [deliveredSinceReset, List.rtakeWhile_concat_neg _ _ _ (by simp [resets]), List.flatMap_nil]

/-- Without a reset, the last operation adds what it delivers. -/
theorem deliveredSinceReset_concat (keeps : operation.resets = false) :
    deliveredSinceReset (operations ++ [operation]) =
      deliveredSinceReset operations ++ operation.delivers := by
  rw [deliveredSinceReset, List.rtakeWhile_concat_pos _ _ _ (by simp [keeps]), List.flatMap_append,
    List.flatMap_singleton, deliveredSinceReset]

/-! ### The last instant of entries -/

/-- The last instant of some entries: below all instants if none of them has one. -/
def lastInstant (entries : List Entry) : WithBot Instant :=
  (entries.filterMap Entry.resolved).max?

/-- A bound is not before the last instant when it is not before any of the entries. -/
theorem lastInstant_le_iff :
    lastInstant entries ≤ bound ↔ ∀ entry ∈ entries, entry.key.recency ≤ bound := by
  have recency : ∀ entry : Entry, entry.key.recency = entry.resolved := fun _ => rfl
  simp only [recency]
  unfold lastInstant
  constructor
  · intro below entry among
    cases resolved : entry.resolved with
    | none => exact bot_le
    | some instant =>
      have listed : instant ∈ entries.filterMap Entry.resolved :=
        List.mem_filterMap.mpr ⟨entry, among, resolved⟩
      obtain ⟨last, isLast⟩ := Option.isSome_iff_exists.mp (List.isSome_max?_of_mem listed)
      rw [isLast] at below
      have notLater : instant ≤ last := (List.max?_eq_some_iff.mp isLast).2 instant listed
      exact (WithBot.coe_le_coe.mpr notLater).trans below
  · intro bounded
    cases isLast : (entries.filterMap Entry.resolved).max? with
    | none => exact bot_le
    | some last =>
      obtain ⟨entry, among, resolved⟩ :=
        List.mem_filterMap.mp (List.max?_eq_some_iff.mp isLast).1
      have below := bounded entry among
      rwa [resolved] at below

/-- The last instant of entries in a row is the later one of both. -/
theorem lastInstant_append (first second : List Entry) :
    lastInstant (first ++ second) = max (lastInstant first) (lastInstant second) := by
  refine eq_of_forall_ge_iff fun bound => ?_
  rw [max_le_iff, lastInstant_le_iff, lastInstant_le_iff, lastInstant_le_iff,
    List.forall_mem_append]

/-! ### One operation -/

namespace WellFormed

/-- A merge moves the latest instant on to the last one of its page. -/
theorem latest_merge (holds : window.WellFormed) (page : List Entry) :
    (window.merge page).1.latest = max window.latest (lastInstant page) := by
  refine eq_of_forall_ge_iff fun bound => ?_
  rw [holds.latest_merge_le_iff, max_le_iff, lastInstant_le_iff]

/-- Trimming never cuts the first row. -/
theorem latest_retain (holds : window.WellFormed) (capacity : Nat) :
    (window.setCapacity capacity .retain).1.latest = window.latest := by
  have rows : (window.setCapacity capacity .retain).1.rows = window.rows.take (max capacity 1) :=
    rfl
  refine eq_of_forall_ge_iff fun bound => ?_
  rw [(holds.setCapacity capacity .retain).latest_le_iff, rows,
    forall_mem_take_iff (Nat.le_max_right capacity 1) holds.ordered, holds.latest_le_iff]

/-- An operation that keeps the rows raises the watermark to what it delivers. -/
theorem latest_apply (holds : window.WellFormed) (keeps : operation.resets = false) :
    (window.apply operation).latest = max window.latest (lastInstant operation.delivers) := by
  cases operation with
  | merge page => exact holds.latest_merge page
  | setCapacity capacity policy =>
    cases policy with
    | reset => cases keeps
    | retain => exact (holds.latest_retain capacity).trans (max_eq_left bot_le).symm

end WellFormed

/-- A reset takes the latest instant back below all instants. -/
theorem latest_apply_of_resets (window : Window) (resets : operation.resets = true) :
    (window.apply operation).latest = ⊥ := by
  cases operation with
  | merge page => cases resets
  | setCapacity capacity policy =>
    cases policy with
    | reset => rfl
    | retain => cases resets

/-! ### Runs -/

/-- The latest instant of a run is the last one delivered since the latest reset. -/
theorem latest_run (capacity : Nat) (operations : List Operation) :
    ((empty capacity).run operations).latest = lastInstant (deliveredSinceReset operations) := by
  induction operations using List.reverseRecOn with
  | nil => rfl
  | append_singleton operations operation ih =>
    have holds : ((empty capacity).run operations).WellFormed :=
      (wellFormed_empty capacity).run operations
    rw [run_append, run_cons, run_nil]
    cases resets : operation.resets with
    | true =>
      rw [latest_apply_of_resets _ resets, deliveredSinceReset_concat_of_resets resets]
      rfl
    | false =>
      rw [holds.latest_apply resets, deliveredSinceReset_concat resets, lastInstant_append, ih]

/-- While rows are not dropped the watermark does not go back. -/
theorem WellFormed.latest_le_run (holds : window.WellFormed)
    (keeps : ∀ operation ∈ operations, operation.resets = false) :
    window.latest ≤ (window.run operations).latest := by
  induction operations generalizing window with
  | nil => exact le_refl _
  | cons operation rest ih =>
    obtain ⟨first, others⟩ := List.forall_mem_cons.mp keeps
    have step : window.latest ≤ (window.apply operation).latest := by
      rw [holds.latest_apply first]
      exact le_max_left _ _
    exact step.trans (ih (holds.apply operation) others)

/-- After every operation of every run the watermark is the last instant of all entries delivered
since the rows were last dropped, those included whose rows are gone. So it never goes back until
the rows are dropped again, and a merge reports the watermark that it found. -/
theorem watermark_run (capacity : Nat) (operations : List Operation) :
    let window := (empty capacity).run operations
    window.watermark = ((deliveredSinceReset operations).filterMap Entry.resolved).max? ∧
    (∀ later : List Operation, (∀ operation ∈ later, operation.resets = false) →
      window.latest ≤ (window.run later).latest) ∧
    ∀ page, (window.merge page).2.previousWatermark = window.watermark ∧
      (window.merge page).2.watermark = (window.merge page).1.watermark := by
  intro window
  have holds : window.WellFormed := (wellFormed_empty capacity).run operations
  refine ⟨latest_run capacity operations, fun later keeps => holds.latest_le_run keeps,
    fun page => ?_⟩
  unfold merge
  dsimp only
  split <;> exact ⟨rfl, rfl⟩

/-- The rows are dropped once. Afterwards only the newest entry is held, and an older one comes and
is pushed out twice. -/
theorem watermark_run_evicted :
    let before : Entry := ⟨"A", 1, some "2024-05-01T10:00:03Z", none, []⟩
    let newest : Entry := ⟨"A", 2, some "2024-05-01T10:00:02Z", none, []⟩
    let older : Entry := ⟨"A", 3, some "2024-05-01T10:00:01Z", none, []⟩
    let unresolved : Entry := ⟨"A", 4, some "yesterday", none, []⟩
    let operations : List Operation :=
      [.merge [before], .setCapacity 4 .reset, .merge [older, newest], .setCapacity 0 .retain]
    let later : List Operation := [.merge [unresolved, older]]
    (∀ operation ∈ later, operation.resets = false) ∧
      ((empty 4).run operations).watermark = some ⟨1714557602, 0⟩ ∧
      ((empty 4).run operations).latest ≤ (((empty 4).run operations).run later).latest ∧
      ((empty 4).run (operations ++ later)).watermark = some ⟨1714557602, 0⟩ := by
  intro before newest older unresolved operations later
  have keeps : ∀ operation ∈ later, operation.resets = false := by
    simp [later, Operation.resets]
  obtain ⟨watermark, monotone, -⟩ := watermark_run 4 operations
  refine ⟨keeps, ?_, monotone later keeps, ?_⟩
  · rw [watermark]
    decide
  · rw [(watermark_run 4 (operations ++ later)).1]
    decide

end Window

end QueryTail
