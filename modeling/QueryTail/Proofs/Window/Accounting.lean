import QueryTail.Proofs.Window.Delivery

/-!
# The account of a merge

A merge may add rows, pass entries over and push rows out, old and new ones, all at once. `Accounts`
relates what it reports to the rows before and after. Keys decide which entries are new. A row that
stays is the row that was there, whatever payload the page brings for its key, and a row that comes
is that of the first entry with its key. What is pushed out is not newer than anything that is kept.

Every merge of every run is accounted for (`accounts_merge`).
-/

namespace QueryTail

namespace Window

variable {window : Window} {page : List Entry} {entry : Entry} {row : Row}

/-! ### First occurrences -/

/-- An unseen entry is the first of the page with its key. -/
theorem find?_eq_of_mem_unseen {seen : Std.HashSet Key} (member : entry ∈ unseen seen page) :
    page.find? (·.key = entry.key) = some entry := by
  induction page generalizing seen with
  | nil => exact absurd member List.not_mem_nil
  | cons first rest ih =>
    have unknown : seen.contains entry.key = false :=
      (mem_keys_unseen.mp (List.mem_map_of_mem member)).2
    unfold unseen at member
    split at member
    · next known =>
      have different : first.key ≠ entry.key := by
        intro same
        rw [same, unknown] at known
        exact Bool.false_ne_true known
      rw [List.find?_cons_of_neg (by simpa using different), ih member]
    · rcases List.mem_cons.mp member with rfl | later
      · exact List.find?_cons_of_pos (by simp)
      · have absent := (mem_keys_unseen.mp (List.mem_map_of_mem later)).2
        have different : first.key ≠ entry.key := by
          intro same
          simp [same] at absent
        rw [List.find?_cons_of_neg (by simpa using different), ih later]

/-- A new row holds the first entry of the page with its key. -/
theorem find?_eq_of_mem_fresh (member : row ∈ window.fresh page) :
    page.find? (·.key = row.key) = some row.entry := by
  obtain ⟨entry, unseen, rfl⟩ := List.mem_map.mp member
  exact find?_eq_of_mem_unseen unseen

/-! ### The account -/

/-- What the report of a merge says of the rows before and after it. -/
structure Accounts (before : Window) (page : List Entry) (after : Window) (result : MergeResult) :
    Prop where
  newCount : result.newCount = (pageKeys page \ before.keys.toFinset).card
  retained : result.retained = after.rows.length
  length : after.rows.length = min before.capacity (before.rows.length + result.newCount)
  evicted : result.evicted + result.retained = before.rows.length + result.newCount
  newKeys : result.newKeys = after.keys.filter (· ∉ before.keys)
  nodup : result.newKeys.Nodup
  /-- A row that was held and still is has not changed. -/
  held : ∀ old ∈ before.rows, ∀ row ∈ after.rows, row.key = old.key → row = old
  /-- A row that was not held holds the first entry of the page with its key. -/
  new : ∀ row ∈ after.rows, row.key ∉ before.keys →
    page.find? (·.key = row.key) = some row.entry
  known : ∀ key ∈ after.keys, key ∈ before.keys ∨ key ∈ pageKeys page
  /-- What is dropped, be it held or new, is not newer than what is kept. -/
  dropped : ∀ row, row ∈ before.rows ∨ row ∈ page.map Row.ofEntry → row.key ∉ after.keys →
    ∀ kept ∈ after.rows, kept.notOlder row = true

/-- A merge reports as many rows as are left. -/
theorem retained_merge (window : Window) (page : List Entry) :
    (window.merge page).2.retained = (window.merge page).1.rows.length := by
  unfold merge
  dsimp only
  split <;> rfl

namespace WellFormed

/-- A row after a merge is a new one or one from before. -/
theorem mem_rows_merge (holds : window.WellFormed) (member : row ∈ (window.merge page).1.rows) :
    row ∈ window.fresh page ∨ row ∈ window.rows := by
  rw [holds.rows_merge] at member
  exact mem_candidates.mp (List.mem_of_mem_take member)

/-- After a merge there are as many rows as before and new ones, up to the capacity. -/
theorem length_merge (holds : window.WellFormed) (page : List Entry) :
    (window.merge page).1.rows.length =
      min window.capacity (window.rows.length + (window.merge page).2.newCount) := by
  rw [holds.rows_merge, List.length_take, length_candidates, newCount_merge, Nat.add_comm]

/-- The new keys are those that the window holds after the merge and did not hold before. -/
theorem newKeys_merge_eq (holds : window.WellFormed) (page : List Entry) :
    (window.merge page).2.newKeys =
      (window.merge page).1.keys.filter (· ∉ window.keys) := by
  rw [newKeys_merge]
  refine List.filter_congr fun key kept => ?_
  rw [Bool.eq_iff_iff, List.contains_iff_mem, decide_eq_true_iff, mem_keys_fresh]
  refine and_iff_right_of_imp fun absent => ?_
  exact mem_pageKeys.mp ((holds.mem_of_mem_keys_merge kept).resolve_left absent)

/-- A row of a window is known by its key. -/
theorem eq_of_key_eq (holds : window.WellFormed) {first second : Row} (left : first ∈ window.rows)
    (right : second ∈ window.rows) (same : first.key = second.key) : first = second :=
  List.inj_on_of_nodup_map holds.nodup left right same

/-- A row that is dropped is not newer than a row that is kept. -/
theorem notOlder_of_dropped (holds : window.WellFormed)
    (known : row ∈ window.rows ∨ row ∈ page.map Row.ofEntry)
    (dropped : row.key ∉ (window.merge page).1.keys) :
    ∀ kept ∈ (window.merge page).1.rows, kept.notOlder row = true := by
  intro kept member
  have candidate : row.key ∈ (window.candidates page).map Row.key ∧
      row.recency = row.key.recency := by
    rw [mem_keys_candidates]
    rcases known with held | arrived
    · exact ⟨Or.inl (List.mem_map_of_mem held), holds.recency_eq held⟩
    · obtain ⟨entry, inPage, rfl⟩ := List.mem_map.mp arrived
      exact ⟨Or.inr (List.mem_map_of_mem inPage), rfl⟩
  rw [Row.notOlder_iff_asRecent, Row.AsRecent, candidate.2, (holds.merge page).recency_eq member]
  exact holds.recency_le_of_dropped candidate.1 dropped kept.key (List.mem_map_of_mem member)

/-- A merge gives a full account of its page. -/
theorem accounts (holds : window.WellFormed) (page : List Entry) :
    Accounts window page (window.merge page).1 (window.merge page).2 where
  newCount := (newCount_merge window page).trans (length_fresh window page)
  retained := retained_merge window page
  length := holds.length_merge page
  evicted := by
    rw [retained_merge, holds.length_merge, holds.evicted_merge, newCount_merge]
    omega
  newKeys := holds.newKeys_merge_eq page
  nodup := nodup_newKeys holds page
  held old inWindow row member same := by
    rcases holds.mem_rows_merge member with fresh | held
    · have absent := (mem_keys_fresh.mp (List.mem_map_of_mem fresh)).2
      exact absurd (same ▸ List.mem_map_of_mem inWindow) absent
    · exact holds.eq_of_key_eq held inWindow same
  new row member absent := by
    rcases holds.mem_rows_merge member with fresh | held
    · exact find?_eq_of_mem_fresh fresh
    · exact absurd (List.mem_map_of_mem held) absent
  known _ kept := holds.mem_of_mem_keys_merge kept
  dropped _ known absent := holds.notOlder_of_dropped known absent

end WellFormed

/-- Whatever operations have led to a window, the report of the next merge accounts for what the
merge does to the rows. -/
theorem accounts_merge (capacity : Nat) (operations : List Operation) (page : List Entry) :
    let window := (empty capacity).run operations
    Accounts window page (window.merge page).1 (window.merge page).2 :=
  ((wellFormed_empty capacity).run operations).accounts page

end Window

end QueryTail
