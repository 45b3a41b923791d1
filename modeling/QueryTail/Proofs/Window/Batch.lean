import QueryTail.Proofs.Window.Invariant

/-!
# A run as one sort

A window sorts and cuts with every page. If no key is delivered twice and the capacity is never
raised, it would come to the same to collect all pages first, later ones in front, and to sort and
cut once. Cutting early therefore loses nothing, and among equally recent rows the later page comes
first and each page keeps its order.
-/

namespace QueryTail

open Time

namespace Window

variable {window : Window} {page history : List Entry}

/-- The entries that a run delivers: those of later pages before those of earlier ones, and the
entries of one page in its order. -/
def arrivals : List Operation → List Entry
  | [] => []
  | .merge page :: rest => arrivals rest ++ page
  | .setCapacity _ _ :: rest => arrivals rest

/-- From a capacity on, every change of the capacity keeps the rows and does not raise it. -/
def OnlyShrinks : Nat → List Operation → Prop
  | _, [] => True
  | capacity, .merge _ :: rest => OnlyShrinks capacity rest
  | capacity, .setCapacity lower policy :: rest =>
    policy = .retain ∧ lower ≤ capacity ∧ OnlyShrinks (max lower 1) rest

/-- The window holds the first rows of the sorted history. -/
def HoldsFirst (window : Window) (history : List Entry) : Prop :=
  window.rows = (newestFirst (history.map Row.ofEntry)).take window.capacity

namespace HoldsFirst

/-- A window that holds the first rows of a history has only keys of that history. -/
theorem keys_subset (first : window.HoldsFirst history) : window.keys ⊆ history.map Entry.key := by
  intro key held
  obtain ⟨row, member, rfl⟩ := List.mem_map.mp held
  rw [first] at member
  have sorted := mem_newestFirst.mp (List.mem_of_mem_take member)
  obtain ⟨entry, inHistory, rfl⟩ := List.mem_map.mp sorted
  exact List.mem_map_of_mem inHistory

/-- A page of new keys goes in front of the history. -/
theorem merge (first : window.HoldsFirst history) (holds : window.WellFormed)
    (nodup : ((page ++ history).map Entry.key).Nodup) :
    (window.merge page).1.HoldsFirst (page ++ history) := by
  rw [List.map_append] at nodup
  obtain ⟨nodupPage, -, disjoint⟩ := List.nodup_append.mp nodup
  have new : window.fresh page = page.map Row.ofEntry := by
    refine fresh_of_nodup nodupPage fun entry member held => ?_
    exact disjoint _ (List.mem_map_of_mem member) _ (first.keys_subset held) rfl
  unfold HoldsFirst at first ⊢
  rw [holds.rows_merge, candidates, new, first, take_newestFirst_append_take, capacity_merge,
    List.map_append]

/-- Lowering the capacity cuts the same list earlier. -/
theorem setCapacity {lower : Nat} (first : window.HoldsFirst history) (holds : window.WellFormed)
    (below : lower ≤ window.capacity) :
    (window.setCapacity lower .retain).1.HoldsFirst history := by
  have room := holds.capacity_pos
  unfold HoldsFirst at first ⊢
  change window.rows.take (max lower 1) = _
  rw [first, List.take_take, Nat.min_eq_left (by omega)]
  rfl

/-- A run adds what it delivers in front of the history. -/
theorem run {operations : List Operation} (first : window.HoldsFirst history)
    (holds : window.WellFormed) (shrinks : OnlyShrinks window.capacity operations)
    (nodup : ((arrivals operations ++ history).map Entry.key).Nodup) :
    (window.run operations).HoldsFirst (arrivals operations ++ history) := by
  induction operations generalizing window history with
  | nil => exact first
  | cons operation rest ih =>
    cases operation with
    | merge page =>
      rw [arrivals, List.append_assoc] at nodup ⊢
      have nodupStep : ((page ++ history).map Entry.key).Nodup :=
        nodup.sublist ((List.sublist_append_right _ _).map Entry.key)
      refine ih (first.merge holds nodupStep) (holds.merge page) ?_ nodup
      exact (capacity_merge window page).symm ▸ shrinks
    | setCapacity lower policy =>
      obtain ⟨rfl, below, later⟩ := shrinks
      exact ih (first.setCapacity holds below) (holds.setCapacity lower .retain) later nodup

end HoldsFirst

/-- An empty window holds the first rows of an empty history. -/
theorem holdsFirst_empty (capacity : Nat) : (empty capacity).HoldsFirst [] := by
  simp [HoldsFirst, empty]

/-- A run that delivers no key twice and never raises the capacity holds the first rows of the
stable sort of all that it delivered, later pages in front. Rows that are equally recent thus keep
the order of their arrival, later pages before earlier ones, and only the last of them are cut. -/
theorem run_eq_batch (capacity : Nat) (operations : List Operation)
    (shrinks : OnlyShrinks (max capacity 1) operations)
    (once : ((arrivals operations).map Entry.key).Nodup) :
    let window := (empty capacity).run operations
    let batch := (arrivals operations).map Row.ofEntry
    window.rows = (newestFirst batch).take window.capacity ∧
    IsStableSort batch (newestFirst batch) ∧
    ∀ recency : WithBot Instant,
      window.rows.filter (·.recency = recency) <+: batch.filter (·.recency = recency) := by
  intro window batch
  have first : window.HoldsFirst (arrivals operations ++ []) :=
    (holdsFirst_empty capacity).run (wellFormed_empty capacity) shrinks (by simpa using once)
  rw [List.append_nil, HoldsFirst] at first
  refine ⟨first, isStableSort_newestFirst batch, fun recency => ?_⟩
  rw [first, ← filter_newestFirst batch recency]
  exact (List.take_prefix _ _).filter _

/-- Two pages with a tie and with entries without an instant, and a lower capacity between them. -/
theorem run_eq_batch_tied :
    let first : Entry := ⟨"A", 1, some "2024-05-01T10:00:02Z", none, []⟩
    let older : Entry := ⟨"A", 2, some "2024-05-01T10:00:01Z", none, []⟩
    let unresolved : Entry := ⟨"A", 3, none, none, []⟩
    let tied : Entry := ⟨"B", 1, some "2024-05-01T10:00:02Z", none, []⟩
    let malformed : Entry := ⟨"B", 2, some "yesterday", none, []⟩
    let operations : List Operation :=
      [.merge [first, older, unresolved], .setCapacity 2 .retain, .merge [malformed, tied]]
    OnlyShrinks (max 4 1) operations ∧ ((arrivals operations).map Entry.key).Nodup ∧
      ((empty 4).run operations).keys = [tied.key, first.key] := by
  intro first older unresolved tied malformed operations
  have shrinks : OnlyShrinks (max 4 1) operations := ⟨rfl, by decide, trivial⟩
  have once : ((arrivals operations).map Entry.key).Nodup := by decide
  obtain ⟨rows, -, -⟩ := run_eq_batch 4 operations shrinks once
  have room : ((empty 4).run operations).capacity = 2 := by
    simp [operations, apply, setCapacity]
  refine ⟨shrinks, once, ?_⟩
  rw [keys, rows, room, newestFirst_eq_insertionSort, List.map_take]
  decide

end Window

end QueryTail
