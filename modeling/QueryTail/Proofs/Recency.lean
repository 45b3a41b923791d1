import Mathlib.Data.List.Sort
import Mathlib.Order.WithBot
import QueryTail.Window.Basic

/-!
# Recency of rows

The order in which a window keeps its rows. Instants are ordered by time, and `WithBot Instant` adds
a least element for what has no instant, so that one inequality says both that newer rows come first
and that rows without an instant come last.

`newestFirst` sorts by this order and is stable. It is proved equal to an insertion sort here; what
is proved about it afterwards follows the rows that are inserted, one at a time.
-/

namespace QueryTail

open Time

namespace Time.Instant

/-- Instants are ordered by time. -/
instance : LinearOrder Instant where
  lt := (· < ·)
  le first second := ¬second < first
  le_refl := lt_irrefl
  le_trans first second third left right := by
    rw [lt_def] at *
    omega
  lt_iff_le_not_ge first second := by
    rw [lt_def, lt_def]
    omega
  le_antisymm _ _ left right := eq_of_not_lt right left
  le_total first second := by
    rw [lt_def, lt_def]
    omega
  toDecidableLE _ _ := inferInstanceAs (Decidable (¬_))

end Time.Instant

/-- How recent an event is by its timestamp; one whose timestamp does not resolve is below all that
have an instant. -/
def Key.recency (key : Key) : WithBot Instant :=
  key.timestamp.bind Timestamp.resolve

namespace Row

variable {first second third : Row} {rows : List Row}

/-- How recent a row is by the instant that it holds. -/
def recency (row : Row) : WithBot Instant :=
  row.resolved

/-- The first row is at least as recent as the second. -/
def AsRecent (first second : Row) : Prop :=
  second.recency ≤ first.recency

instance : DecidableRel AsRecent :=
  fun first second => inferInstanceAs (Decidable (second.recency ≤ first.recency))

instance : Std.Total AsRecent :=
  ⟨fun first second => le_total second.recency first.recency⟩

instance : IsTrans Row AsRecent :=
  ⟨fun _ _ _ left right => le_trans right left⟩

/-- The comparison of the sort says which row is at least as recent. -/
theorem notOlder_iff_asRecent : first.notOlder second = true ↔ first.AsRecent second := by
  unfold notOlder AsRecent recency
  cases first.resolved with
  | none =>
    cases second.resolved with
    | none => exact ⟨fun _ => le_refl _, fun _ => rfl⟩
    | some right =>
      refine ⟨fun notOlder => (by cases notOlder), fun least => ?_⟩
      exact absurd (WithBot.bot_lt_coe right) least.not_gt
  | some left =>
    cases second.resolved with
    | none => exact ⟨fun _ => bot_le, fun _ => rfl⟩
    | some right =>
      simp only [Bool.not_eq_true', decide_eq_false_iff_not, not_lt]
      exact WithBot.coe_le_coe.symm

/-- The comparison of the sort is transitive. -/
theorem notOlder_trans (first second third : Row) (left : first.notOlder second = true)
    (right : second.notOlder third = true) : first.notOlder third = true := by
  rw [notOlder_iff_asRecent] at *
  exact trans_of AsRecent left right

/-- The comparison of the sort puts any two rows in some order. -/
theorem notOlder_total (first second : Row) :
    (first.notOlder second || second.notOlder first) = true := by
  rw [Bool.or_eq_true, notOlder_iff_asRecent, notOlder_iff_asRecent]
  exact total_of AsRecent first second

end Row

namespace Window

variable {row : Row} {rows arrivals held : List Row}

/-- Sorting loses and adds no rows. -/
theorem newestFirst_perm (rows : List Row) : (newestFirst rows).Perm rows :=
  List.mergeSort_perm rows _

@[simp] theorem mem_newestFirst : row ∈ newestFirst rows ↔ row ∈ rows :=
  (newestFirst_perm rows).mem_iff

@[simp] theorem length_newestFirst (rows : List Row) : (newestFirst rows).length = rows.length :=
  (newestFirst_perm rows).length_eq

/-- Sorted rows go from newest to oldest. -/
theorem newestFirst_ordered (rows : List Row) : (newestFirst rows).Pairwise Row.AsRecent :=
  (List.pairwise_mergeSort Row.notOlder_trans Row.notOlder_total rows).imp
    Row.notOlder_iff_asRecent.mp

/-- Sorting puts a first row before all rows that are not more recent, and behind all others. -/
theorem newestFirst_cons (row : Row) (rows : List Row) :
    newestFirst (row :: rows) = (newestFirst rows).orderedInsert Row.AsRecent row := by
  obtain ⟨newer, others, sorted, rest, passed⟩ :=
    List.mergeSort_cons Row.notOlder_trans Row.notOlder_total row rows
  have ordered := newestFirst_ordered (row :: rows)
  unfold newestFirst at ordered ⊢
  rw [sorted] at ordered ⊢
  rw [rest]
  clear sorted rest
  induction newer with
  | nil =>
    cases others with
    | nil => rfl
    | cons next others =>
      have before : row.AsRecent next := (List.pairwise_cons.mp ordered).1 next List.mem_cons_self
      exact (List.orderedInsert_cons_of_le Row.AsRecent others before).symm
  | cons first newer ih =>
    have behind : ¬row.AsRecent first := by
      rw [← Row.notOlder_iff_asRecent, Bool.not_eq_true, ← Bool.not_eq_true']
      exact passed first List.mem_cons_self
    rw [List.cons_append, List.cons_append, List.orderedInsert_of_not_le Row.AsRecent _ behind,
      ← ih (fun other member => passed other (List.mem_cons_of_mem first member))
        (List.pairwise_cons.mp ordered).2]

/-- The merge sort gives what sorting by insertion gives. -/
theorem newestFirst_eq_insertionSort (rows : List Row) :
    newestFirst rows = rows.insertionSort Row.AsRecent := by
  induction rows with
  | nil => simp [newestFirst]
  | cons row rest ih => rw [newestFirst_cons, List.insertionSort_cons, ih]

@[simp] theorem newestFirst_nil : newestFirst [] = [] := by
  simp [newestFirst]

/-- Rows in order stay as they are. -/
theorem newestFirst_of_ordered (ordered : rows.Pairwise Row.AsRecent) :
    newestFirst rows = rows := by
  rw [newestFirst_eq_insertionSort]
  exact ordered.insertionSort_eq

/-- Rows that are all older than those already in order go behind them. -/
theorem newestFirst_append_of_older (ordered : held.Pairwise Row.AsRecent)
    (older : ∀ arrival ∈ arrivals, ∀ row ∈ held, arrival.recency < row.recency) :
    newestFirst (arrivals ++ held) = held ++ newestFirst arrivals := by
  induction arrivals with
  | nil => simp [newestFirst_of_ordered ordered]
  | cons arrival rest ih =>
    have behind : ∀ row ∈ held, ¬arrival.AsRecent row := fun row member =>
      (older arrival List.mem_cons_self row member).not_ge
    rw [List.cons_append, newestFirst_cons, newestFirst_cons,
      ih fun other member => older other (List.mem_cons_of_mem arrival member)]
    clear ih older ordered
    -- The new row passes one held row after the other.
    induction held with
    | nil => rfl
    | cons first rest ih =>
      rw [List.cons_append, List.orderedInsert_of_not_le _ _ (behind first List.mem_cons_self),
        ih fun row member => behind row (List.mem_cons_of_mem first member), List.cons_append]

/-- Sorting keeps the order of rows that are equally recent. -/
theorem filter_newestFirst (rows : List Row) (recency : WithBot Instant) :
    (newestFirst rows).filter (·.recency = recency) = rows.filter (·.recency = recency) := by
  have equal : (rows.filter (·.recency = recency)).Pairwise Row.AsRecent := by
    refine List.pairwise_of_forall_mem_list fun first left second right => ?_
    rw [List.mem_filter, decide_eq_true_iff] at left right
    exact (right.2.trans left.2.symm).le
  have kept : (rows.filter (·.recency = recency)).Sublist (newestFirst rows) := by
    rw [newestFirst_eq_insertionSort]
    exact List.sublist_insertionSort equal List.filter_sublist
  have filtered := kept.filter (·.recency = recency)
  rw [List.filter_filter] at filtered
  simp only [Bool.and_self] at filtered
  exact (filtered.eq_of_length ((newestFirst_perm rows).filter _).length_eq.symm).symm

/-- Rows sorted newest first, where rows that are equally recent keep their order. -/
structure IsStableSort (rows sorted : List Row) : Prop where
  perm : sorted.Perm rows
  ordered : sorted.Pairwise Row.AsRecent
  stable : ∀ recency : WithBot Instant,
    sorted.filter (·.recency = recency) = rows.filter (·.recency = recency)

/-- Sorting newest first is a stable sort. -/
theorem isStableSort_newestFirst (rows : List Row) : IsStableSort rows (newestFirst rows) :=
  ⟨newestFirst_perm rows, newestFirst_ordered rows, filter_newestFirst rows⟩

/-- The most recent rows after an insertion do not depend on rows beyond them. -/
theorem take_orderedInsert (row : Row) (rows : List Row) (count : Nat) :
    (rows.orderedInsert Row.AsRecent row).take count =
      ((rows.take count).orderedInsert Row.AsRecent row).take count := by
  induction rows generalizing count with
  | nil => simp
  | cons first rest ih =>
    cases count with
    | zero => simp
    | succ count =>
      by_cases before : row.AsRecent first
      · rw [List.take_succ_cons, List.orderedInsert_cons_of_le _ _ before,
          List.orderedInsert_cons_of_le _ _ before, List.take_succ_cons, List.take_succ_cons]
        cases count with
        | zero => rfl
        | succ count => simp [List.take_take]
      · simp [before, ih count]

/-- Sorting more rows in front of two lists keeps their most recent rows equal. -/
theorem take_newestFirst_append {count : Nat} {left right : List Row} (arrivals : List Row)
    (equal : (newestFirst left).take count = (newestFirst right).take count) :
    (newestFirst (arrivals ++ left)).take count = (newestFirst (arrivals ++ right)).take count := by
  induction arrivals with
  | nil => exact equal
  | cons arrival rest ih =>
    rw [List.cons_append, List.cons_append, newestFirst_cons, newestFirst_cons,
      take_orderedInsert, ih, ← take_orderedInsert]

/-- Rows that were cut off earlier do not matter for the most recent rows. -/
theorem take_newestFirst_append_take (arrivals held : List Row) (count : Nat) :
    (newestFirst (arrivals ++ (newestFirst held).take count)).take count =
      (newestFirst (arrivals ++ held)).take count := by
  apply take_newestFirst_append
  have ordered := (newestFirst_ordered held).sublist (List.take_sublist count _)
  rw [newestFirst_of_ordered ordered, List.take_take, Nat.min_self]

end Window

end QueryTail
