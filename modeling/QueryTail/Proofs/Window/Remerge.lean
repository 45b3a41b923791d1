import QueryTail.Proofs.Window.Invariant

/-!
# Merging a page twice

A window forgets a row that the capacity pushes out. A merge of the same page a second time
therefore finds every entry new that the first merge did not keep. It changes nothing exactly if
there is no such entry.

Otherwise the entries come back as new arrivals, and new arrivals stand before held rows that are
equally recent. An entry that tied with the last row held is then kept in its place.
-/

namespace QueryTail

open Time

namespace Window

variable {window : Window} {page : List Entry} {entry : Entry}

/-- In a list without repetition, what stands before one of the first elements is one of them. -/
theorem mem_take_of_before {α : Type} {first second : α} {list : List α} {count : Nat}
    (nodup : list.Nodup) (before : [first, second].Sublist list)
    (member : second ∈ list.take count) : first ∈ list.take count := by
  rw [← List.take_append_drop count list] at before nodup
  obtain ⟨left, right, split, inTake, inDrop⟩ := List.sublist_append_iff.mp before
  cases left with
  | nil =>
    rw [List.nil_append] at split
    have later : second ∈ list.drop count := inDrop.subset (split ▸ by simp)
    exact absurd rfl ((List.nodup_append.mp nodup).2.2 second member second later)
  | cons other rest =>
    obtain ⟨rfl, -⟩ := List.cons_eq_cons.mp split
    exact inTake.subset List.mem_cons_self

/-- A page that is held as a whole leaves the window as it is. -/
theorem merge_of_held (held : ∀ entry ∈ page, entry.key ∈ window.keys) :
    window.merge page =
      (window,
        { previousWatermark := window.watermark, watermark := window.watermark
          newCount := 0, newKeys := [], evicted := 0, retained := window.rows.length }) := by
  simp [merge, fresh_eq_nil_iff.mpr held]

namespace WellFormed

/-- A merge keeps all keys of its page or fills the window. -/
theorem held_or_full (holds : window.WellFormed) (page : List Entry) :
    (∀ entry ∈ page, entry.key ∈ (window.merge page).1.keys) ∨
      (window.merge page).1.rows.length = (window.merge page).1.capacity := by
  rw [keys, holds.rows_merge, capacity_merge]
  by_cases room : (window.candidates page).length ≤ window.capacity
  · left
    intro entry member
    rw [List.take_of_length_le room]
    exact mem_keys_candidates.mpr (Or.inr (List.mem_map_of_mem member))
  · right
    rw [List.length_take]
    omega

/-- Nothing is lost unless the merge pushes rows out. -/
theorem mem_keys_of_evicted_eq_zero (holds : window.WellFormed)
    (none : (window.merge page).2.evicted = 0) (member : entry ∈ page) :
    entry.key ∈ (window.merge page).1.keys := by
  rw [holds.evicted_merge, Nat.sub_eq_zero_iff_le, ← length_candidates] at none
  rw [keys, holds.rows_merge, List.take_of_length_le none]
  exact mem_keys_candidates.mpr (Or.inr (List.mem_map_of_mem member))

/-- A second merge of a page does not move the watermark. -/
theorem watermark_remerge (holds : window.WellFormed) (page : List Entry) :
    ((window.merge page).1.merge page).1.watermark = (window.merge page).1.watermark := by
  change ((window.merge page).1.merge page).1.latest = (window.merge page).1.latest
  refine eq_of_forall_ge_iff fun bound => ?_
  rw [(holds.merge page).latest_merge_le_iff, holds.latest_merge_le_iff]
  exact and_iff_left_of_imp And.right

/-- A second merge pushes out as many rows as it counts new entries. -/
theorem evicted_remerge (holds : window.WellFormed) (page : List Entry) :
    ((window.merge page).1.merge page).2.evicted =
      ((window.merge page).1.fresh page).length := by
  have kept := holds.merge page
  rw [kept.evicted_merge]
  rcases holds.held_or_full page with held | full
  · rw [fresh_eq_nil_iff.mpr held, List.length_nil, Nat.zero_add]
    exact Nat.sub_eq_zero_of_le kept.length_le
  · rw [full, Nat.add_sub_cancel]

/-- If all entries that the first merge did not keep are older than all rows that it kept, the
second merge sorts them behind these rows and cuts them off. -/
theorem rows_remerge_of_older (holds : window.WellFormed)
    (older : ∀ entry ∈ page, entry.key ∉ (window.merge page).1.keys →
      ∀ row ∈ (window.merge page).1.rows, entry.key.recency < row.recency) :
    ((window.merge page).1.merge page).1.rows = (window.merge page).1.rows := by
  have kept := holds.merge page
  rw [kept.rows_merge, candidates, newestFirst_append_of_older kept.ordered]
  · rcases holds.held_or_full page with held | full
    · rw [fresh_eq_nil_iff.mpr held, newestFirst_nil, List.append_nil,
        List.take_of_length_le kept.length_le]
    · rw [← full, List.take_left]
  · intro arrival fresh row inWindow
    have new := mem_keys_fresh.mp (List.mem_map_of_mem fresh)
    obtain ⟨entry, member, sameKey⟩ := List.mem_map.mp new.1
    rw [recency_of_mem_fresh fresh, ← sameKey]
    exact older entry member (sameKey ▸ new.2) row inWindow

/-- If the second merge leaves the rows as they are, the entries that the first did not keep are
older than all rows that it kept: one that is not would stand before such a row. -/
theorem older_of_rows_remerge (holds : window.WellFormed)
    (same : ((window.merge page).1.merge page).1.rows = (window.merge page).1.rows)
    (member : entry ∈ page) (lost : entry.key ∉ (window.merge page).1.keys) :
    ∀ row ∈ (window.merge page).1.rows, entry.key.recency < row.recency := by
  have kept := holds.merge page
  rw [kept.rows_merge] at same
  intro row inWindow
  by_contra notOlder
  have new := mem_keys_fresh.mpr ⟨List.mem_map_of_mem member, lost⟩
  obtain ⟨arrival, fresh, sameKey⟩ := List.mem_map.mp new
  rw [not_lt, ← sameKey, ← recency_of_mem_fresh fresh] at notOlder
  have before : [arrival, row].Sublist ((window.merge page).1.candidates page) := by
    rw [candidates, newestFirst_eq_insertionSort]
    refine List.sublist_insertionSort (List.pairwise_pair.mpr notOlder) ?_
    exact (List.singleton_sublist.mpr fresh).append (List.singleton_sublist.mpr inWindow)
  rw [← same] at inWindow
  have again := mem_take_of_before (nodup_keys_candidates kept.nodup page).of_map before inWindow
  rw [same] at again
  exact lost (sameKey ▸ List.mem_map_of_mem again)

end WellFormed

/-- A second merge of a page changes nothing exactly if the first kept every key of the page, as it
does if it pushed nothing out. In any case the watermark stays, the second merge counts as new and
pushes out as many entries as the first did not keep, and the rows stay exactly if these entries are
older than all rows that are held. -/
theorem remerge_iff (capacity : Nat) (operations : List Operation) (page : List Entry) :
    let window := (empty capacity).run operations
    let once := (window.merge page).1
    let again := once.merge page
    let lost := (page.map Entry.key).toFinset \ once.keys.toFinset
    (again.1.rows = once.rows ∧ again.1.watermark = once.watermark ∧
        again.2.newCount = 0 ∧ again.2.newKeys = [] ∧ again.2.evicted = 0 ↔
      ∀ entry ∈ page, entry.key ∈ once.keys) ∧
    ((window.merge page).2.evicted = 0 → ∀ entry ∈ page, entry.key ∈ once.keys) ∧
    again.1.watermark = once.watermark ∧
    again.2.newCount = lost.card ∧ again.2.evicted = lost.card ∧
    (again.1.rows = once.rows ↔ ∀ entry ∈ page, entry.key ∉ once.keys →
      ∀ row ∈ once.rows, entry.key.recency < row.recency) := by
  intro window once again lost
  have holds : window.WellFormed := Reachable.wellFormed ⟨capacity, operations, rfl⟩
  refine ⟨⟨fun unchanged => ?_, fun held => ?_⟩,
    fun none _ => holds.mem_keys_of_evicted_eq_zero none, holds.watermark_remerge page, ?_, ?_,
    fun same _ => holds.older_of_rows_remerge same, holds.rows_remerge_of_older⟩
  · have none := unchanged.2.2.1
    rw [newCount_merge, List.length_eq_zero_iff] at none
    exact fresh_eq_nil_iff.mp none
  · have same : again = _ := merge_of_held held
    rw [same]
    exact ⟨rfl, rfl, rfl, rfl, rfl⟩
  · exact (newCount_merge once page).trans (length_fresh once page)
  · exact (holds.evicted_remerge page).trans (length_fresh once page)

/-- Two entries of one instant and room for one row: the second merge of their page is no repetition
of the first, but replaces the row that the first has kept by the one that it has not. -/
theorem remerge_alternates :
    let time := some "2024-05-01T10:00:01Z"
    let first : Entry := ⟨"A", 1, time, none, []⟩
    let second : Entry := ⟨"B", 1, time, none, []⟩
    let once := ((empty 1).merge [first, second]).1
    let again := once.merge [first, second]
    once.keys = [first.key] ∧ again.1.keys = [second.key] ∧
      again.2.newCount = 1 ∧ again.2.newKeys = [second.key] ∧ again.2.evicted = 1 := by
  intro time first second once again
  have holds := wellFormed_empty 1
  have distinct : first.key ≠ second.key := by decide
  have tied (left right : Row) (same : left.recency = right.recency) :
      newestFirst [left, right] = [left, right] :=
    newestFirst_of_ordered (List.pairwise_pair.mpr same.ge)
  have firstNew : (empty 1).fresh [first, second] = [.ofEntry first, .ofEntry second] := by
    simp [fresh, unseen, empty, Std.HashSet.contains_insert, distinct]
  have firstRows : once.rows = [.ofEntry first] := by
    rw [holds.rows_merge, candidates, firstNew]
    exact congrArg (List.take 1) (tied (.ofEntry first) (.ofEntry second) rfl)
  have secondNew : once.fresh [first, second] = [.ofEntry second] := by
    simp [fresh, unseen, firstRows, distinct.symm]
  have secondRows : again.1.rows = [.ofEntry second] := by
    rw [(holds.merge _).rows_merge, candidates, secondNew, firstRows, capacity_merge]
    exact congrArg (List.take 1) (tied (.ofEntry second) (.ofEntry first) rfl)
  refine ⟨?_, ?_, ?_, ?_, ?_⟩
  · rw [keys, firstRows, List.map_singleton, Row.key_ofEntry]
  · rw [keys, secondRows, List.map_singleton, Row.key_ofEntry]
  · rw [newCount_merge, secondNew, List.length_singleton]
  · rw [newKeys_merge, keys, secondRows, secondNew]
    simp
  · rw [(holds.merge _).evicted_merge, secondNew, firstRows, capacity_merge]
    rfl

end Window

end QueryTail
