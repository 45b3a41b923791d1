import Mathlib.Data.Finset.Card
import Mathlib.Order.MinMax
import QueryTail.Proofs.Recency

/-!
# What holds of every window

A window is described by what it holds, not by how it got there. `WellFormed` lists the facts: room
for a row, no more rows than there is room for, one row a key, instants that agree with the
timestamps, newest rows first, and a watermark taken from the first row. Each operation keeps them,
hence every run from an empty window does.

For a well-formed window a merge is one equation (`WellFormed.rows_merge`): of the candidates, which
are the new rows sorted in front of the held ones, it keeps as many as there is room for. The case
without new rows needs no treatment of its own, because sorting and cutting change nothing then.
-/

namespace QueryTail

open Time

namespace Window

variable {window : Window} {page : List Entry} {key : Key} {row : Row}

/-- The keys that a window holds, in window order. -/
def keys (window : Window) : List Key :=
  window.rows.map Row.key

/-! ### New rows -/

section Unseen

variable {seen : Std.HashSet Key}

/-- The unseen keys of a page are its keys that were not seen. -/
theorem mem_keys_unseen :
    key ∈ (unseen seen page).map Entry.key ↔
      key ∈ page.map Entry.key ∧ seen.contains key = false := by
  induction page generalizing seen with
  | nil => simp [unseen]
  | cons entry rest ih =>
    unfold unseen
    by_cases same : key = entry.key
    · subst same
      cases held : seen.contains entry.key with
      | true => simp [held, ih]
      | false => simp
    · cases seen.contains entry.key with
      | true => simp [ih, same]
      | false => simp [ih, same, Std.HashSet.contains_insert, Ne.symm same]

/-- Of entries with one key only the first is unseen. -/
theorem nodup_keys_unseen (seen : Std.HashSet Key) (page : List Entry) :
    ((unseen seen page).map Entry.key).Nodup := by
  induction page generalizing seen with
  | nil => exact List.nodup_nil
  | cons entry rest ih =>
    unfold unseen
    split
    · exact ih seen
    · rw [List.map_cons, List.nodup_cons]
      refine ⟨fun again => ?_, ih _⟩
      have absent := (mem_keys_unseen.mp again).2
      simp at absent

/-- A page without repetition of which nothing was seen stays as it is. -/
theorem unseen_of_nodup (nodup : (page.map Entry.key).Nodup)
    (absent : ∀ entry ∈ page, seen.contains entry.key = false) : unseen seen page = page := by
  induction page generalizing seen with
  | nil => rfl
  | cons entry rest ih =>
    obtain ⟨once, nodupRest⟩ := List.nodup_cons.mp nodup
    have first : seen.contains entry.key = false := absent entry List.mem_cons_self
    unfold unseen
    rw [first, if_neg Bool.false_ne_true, ih nodupRest]
    intro other member
    have different : entry.key ≠ other.key := fun same => once (same ▸ List.mem_map_of_mem member)
    rw [Std.HashSet.contains_insert, absent other (List.mem_cons_of_mem entry member)]
    simpa using different

end Unseen

/-- The new rows of a page have its unseen keys. -/
theorem keys_fresh (window : Window) (page : List Entry) :
    (window.fresh page).map Row.key = (unseen (keySet window.rows) page).map Entry.key := by
  simp [fresh, Function.comp_def]

/-- The new rows bring exactly the keys of the page that are not held. -/
theorem mem_keys_fresh :
    key ∈ (window.fresh page).map Row.key ↔ key ∈ page.map Entry.key ∧ key ∉ window.keys := by
  rw [keys_fresh, mem_keys_unseen, contains_keySet, keys, ← Bool.not_eq_true, List.contains_iff_mem]

/-- The new rows of a page have different keys. -/
theorem nodup_keys_fresh (window : Window) (page : List Entry) :
    ((window.fresh page).map Row.key).Nodup := by
  rw [keys_fresh]
  exact nodup_keys_unseen _ page

/-- There are as many new rows as the page has distinct keys that are not held. -/
theorem length_fresh (window : Window) (page : List Entry) :
    (window.fresh page).length =
      ((page.map Entry.key).toFinset \ window.keys.toFinset).card := by
  rw [← List.length_map (f := Row.key),
    ← List.toFinset_card_of_nodup (nodup_keys_fresh window page)]
  congr 1
  ext key
  simp only [List.mem_toFinset, Finset.mem_sdiff, mem_keys_fresh]

/-- All rows of a page are new if it has one row a key and none of the keys is held. -/
theorem fresh_of_nodup (nodup : (page.map Entry.key).Nodup)
    (absent : ∀ entry ∈ page, entry.key ∉ window.keys) :
    window.fresh page = page.map Row.ofEntry := by
  rw [fresh, unseen_of_nodup nodup]
  intro entry member
  rw [contains_keySet, ← Bool.not_eq_true, List.contains_iff_mem]
  exact absent entry member

/-- A new row is resolved as its entry is. -/
theorem resolved_of_mem_fresh (member : row ∈ window.fresh page) :
    row.resolved = row.entry.resolved := by
  obtain ⟨entry, _, rfl⟩ := List.mem_map.mp member
  rfl

/-- A new row is as recent as its key. -/
theorem recency_of_mem_fresh (member : row ∈ window.fresh page) :
    row.recency = row.key.recency :=
  resolved_of_mem_fresh member

/-- There are no new rows exactly if the window holds all keys of the page. -/
theorem fresh_eq_nil_iff : window.fresh page = [] ↔ ∀ entry ∈ page, entry.key ∈ window.keys := by
  constructor
  · intro none entry member
    by_contra absent
    have new := mem_keys_fresh.mpr ⟨List.mem_map_of_mem member, absent⟩
    rw [none] at new
    exact absurd new List.not_mem_nil
  · intro held
    rw [← List.map_eq_nil_iff (f := Row.key), List.eq_nil_iff_forall_not_mem]
    intro key new
    obtain ⟨inPage, absent⟩ := mem_keys_fresh.mp new
    obtain ⟨entry, member, rfl⟩ := List.mem_map.mp inPage
    exact absent (held entry member)

/-- All rows that a merge chooses from, in window order. -/
def candidates (window : Window) (page : List Entry) : List Row :=
  newestFirst (window.fresh page ++ window.rows)

/-- The candidates are the new rows and the rows of the window. -/
theorem mem_candidates :
    row ∈ window.candidates page ↔ row ∈ window.fresh page ∨ row ∈ window.rows := by
  rw [candidates, mem_newestFirst, List.mem_append]

@[simp] theorem length_candidates (window : Window) (page : List Entry) :
    (window.candidates page).length = (window.fresh page).length + window.rows.length := by
  rw [candidates, length_newestFirst, List.length_append]

/-- The candidates go from newest to oldest. -/
theorem candidates_ordered (window : Window) (page : List Entry) :
    (window.candidates page).Pairwise Row.AsRecent :=
  newestFirst_ordered _

/-- The candidates have the keys of the new rows and of the window, each as often. -/
theorem keys_candidates_perm (window : Window) (page : List Entry) :
    ((window.candidates page).map Row.key).Perm
      ((window.fresh page).map Row.key ++ window.keys) := by
  have sorted := (newestFirst_perm (window.fresh page ++ window.rows)).map Row.key
  rwa [List.map_append] at sorted

/-- A merge chooses from the held keys and those of the page. -/
theorem mem_keys_candidates :
    key ∈ (window.candidates page).map Row.key ↔ key ∈ window.keys ∨ key ∈ page.map Entry.key := by
  rw [(keys_candidates_perm window page).mem_iff, List.mem_append, mem_keys_fresh]
  by_cases held : key ∈ window.keys <;> simp [held]

/-- The candidates have different keys if the rows of the window do. -/
theorem nodup_keys_candidates (nodup : window.keys.Nodup) (page : List Entry) :
    ((window.candidates page).map Row.key).Nodup := by
  rw [(keys_candidates_perm window page).nodup_iff, List.nodup_append]
  refine ⟨nodup_keys_fresh window page, nodup, ?_⟩
  rintro new fresh held member rfl
  exact (mem_keys_fresh.mp fresh).2 member

/-! ### The facts -/

/-- What holds of every window that operations lead to. -/
structure WellFormed (window : Window) : Prop where
  capacity_pos : 1 ≤ window.capacity
  length_le : window.rows.length ≤ window.capacity
  nodup : window.keys.Nodup
  /-- The instant that is held with a row is that of its timestamp. -/
  resolved : ∀ row ∈ window.rows, row.resolved = row.entry.resolved
  /-- Newest rows first, rows without an instant last. -/
  ordered : window.rows.Pairwise Row.AsRecent
  watermark : window.watermark = window.rows.head?.bind Row.resolved

/-- In ordered rows the first instant, if there is one, stands in the first row. -/
theorem firstResolved_of_ordered {rows : List Row} (ordered : rows.Pairwise Row.AsRecent) :
    firstResolved rows = rows.head?.bind Row.resolved := by
  cases rows with
  | nil => rfl
  | cons first rest =>
    cases newest : first.resolved with
    | some instant => simp [firstResolved, newest]
    | none =>
      have unresolved : ∀ row ∈ rest, row.resolved = none := by
        intro row member
        have below : row.recency ≤ first.recency := (List.pairwise_cons.mp ordered).1 row member
        unfold Row.recency at below
        rw [newest] at below
        exact le_bot_iff.mp below
      simpa [firstResolved, newest] using unresolved

/-- The first rows of an ordered list with one row a key make a well-formed window. -/
theorem wellFormed_of_take {capacity : Nat} {rows : List Row} (positive : 1 ≤ capacity)
    (nodup : (rows.map Row.key).Nodup) (resolved : ∀ row ∈ rows, row.resolved = row.entry.resolved)
    (ordered : rows.Pairwise Row.AsRecent) :
    WellFormed ⟨capacity, rows.take capacity, firstResolved (rows.take capacity)⟩ where
  capacity_pos := positive
  length_le := List.length_take_le capacity rows
  nodup := nodup.sublist ((List.take_sublist capacity rows).map Row.key)
  resolved row member := resolved row (List.mem_of_mem_take member)
  ordered := ordered.sublist (List.take_sublist capacity rows)
  watermark := firstResolved_of_ordered (ordered.sublist (List.take_sublist capacity rows))

/-- An empty window is well-formed. -/
theorem wellFormed_empty (capacity : Nat) : (empty capacity).WellFormed where
  capacity_pos := Nat.le_max_right capacity 1
  length_le := Nat.zero_le _
  nodup := List.nodup_nil
  resolved _ member := absurd member List.not_mem_nil
  ordered := List.Pairwise.nil
  watermark := rfl

/-! ### Merging -/

@[simp] theorem capacity_merge (window : Window) (page : List Entry) :
    (window.merge page).1.capacity = window.capacity := by
  unfold merge
  dsimp only
  split <;> rfl

/-- A page without new rows leaves the window alone. -/
theorem merge_of_fresh_eq_nil (none : window.fresh page = []) :
    (window.merge page).1 = window := by
  simp [merge, none]

/-- A page with new rows leaves the first candidates, as many as the capacity allows. -/
theorem merge_of_fresh_ne_nil (some : window.fresh page ≠ []) :
    (window.merge page).1 =
      ⟨window.capacity, (window.candidates page).take window.capacity,
        firstResolved ((window.candidates page).take window.capacity)⟩ := by
  simp [merge, candidates, some]

/-- A merge counts the new rows of its page. -/
theorem newCount_merge (window : Window) (page : List Entry) :
    (window.merge page).2.newCount = (window.fresh page).length := by
  unfold merge
  dsimp only
  split
  · next none => rw [List.isEmpty_iff.mp none, List.length_nil]
  · rfl

/-- A merge reports the keys that it brought and that the window holds afterwards. -/
theorem newKeys_merge (window : Window) (page : List Entry) :
    (window.merge page).2.newKeys =
      (window.merge page).1.keys.filter (((window.fresh page).map Row.key).contains ·) := by
  unfold merge
  dsimp only
  split
  · next none => simp [List.isEmpty_iff.mp none]
  · exact List.filter_congr fun key _ => contains_keySet _ key

namespace WellFormed

/-- A merge keeps the first candidates, as many as there is room for. -/
theorem rows_merge (holds : window.WellFormed) (page : List Entry) :
    (window.merge page).1.rows = (window.candidates page).take window.capacity := by
  by_cases none : window.fresh page = []
  · rw [merge_of_fresh_eq_nil none, candidates, none, List.nil_append,
      newestFirst_of_ordered holds.ordered, List.take_of_length_le holds.length_le]
  · rw [merge_of_fresh_ne_nil none]

/-- A merge keeps a window well-formed. -/
theorem merge (holds : window.WellFormed) (page : List Entry) :
    (window.merge page).1.WellFormed := by
  by_cases none : window.fresh page = []
  · rw [merge_of_fresh_eq_nil none]
    exact holds
  · rw [merge_of_fresh_ne_nil none]
    refine wellFormed_of_take holds.capacity_pos (nodup_keys_candidates holds.nodup page) ?_
      (candidates_ordered window page)
    intro row member
    rcases mem_candidates.mp member with fresh | held
    · exact resolved_of_mem_fresh fresh
    · exact holds.resolved row held

/-- A merge evicts what goes beyond the capacity. -/
theorem evicted_merge (holds : window.WellFormed) (page : List Entry) :
    (window.merge page).2.evicted =
      (window.fresh page).length + window.rows.length - window.capacity := by
  unfold Window.merge
  dsimp only
  split
  · next none =>
    rw [List.isEmpty_iff.mp none, List.length_nil, Nat.zero_add]
    exact (Nat.sub_eq_zero_of_le holds.length_le).symm
  · simp

/-- A new capacity keeps a window well-formed. -/
theorem setCapacity (holds : window.WellFormed) (capacity : Nat) (policy : CapacityPolicy) :
    (window.setCapacity capacity policy).1.WellFormed := by
  have positive : 1 ≤ max capacity 1 := Nat.le_max_right capacity 1
  cases policy with
  | reset =>
    have kept : WellFormed ⟨max capacity 1, List.take (max capacity 1) [], _⟩ :=
      wellFormed_of_take positive List.nodup_nil
        (fun _ member => absurd member List.not_mem_nil) List.Pairwise.nil
    rwa [List.take_nil] at kept
  | retain => exact wellFormed_of_take positive holds.nodup holds.resolved holds.ordered

/-- An operation keeps a window well-formed. -/
theorem apply (holds : window.WellFormed) (operation : Operation) :
    (window.apply operation).WellFormed := by
  cases operation with
  | merge page => exact holds.merge page
  | setCapacity capacity policy => exact holds.setCapacity capacity policy

/-- Operations keep a window well-formed. -/
theorem run (holds : window.WellFormed) (operations : List Operation) :
    (window.run operations).WellFormed := by
  induction operations generalizing window with
  | nil => exact holds
  | cons operation rest ih => exact ih (holds.apply operation)

end WellFormed

/-- Every reachable window is well-formed. -/
theorem Reachable.wellFormed (reachable : window.Reachable) : window.WellFormed := by
  obtain ⟨capacity, operations, rfl⟩ := reachable
  exact (wellFormed_empty capacity).run operations

/-! ### The watermark -/

/-- The watermark as a recency: below all instants if there is none. -/
def latest (window : Window) : WithBot Instant :=
  window.watermark

/-- Cutting ordered rows, but not all of them, keeps the most recent one. -/
theorem forall_mem_take_iff {rows : List Row} {count : Nat} {bound : WithBot Instant}
    (positive : 1 ≤ count) (ordered : rows.Pairwise Row.AsRecent) :
    (∀ row ∈ rows.take count, row.recency ≤ bound) ↔ ∀ row ∈ rows, row.recency ≤ bound := by
  refine ⟨fun bounded row member => ?_, fun bounded row member =>
    bounded row (List.mem_of_mem_take member)⟩
  cases rows with
  | nil => exact absurd member List.not_mem_nil
  | cons first rest =>
    have newest : first.recency ≤ bound := by
      apply bounded
      rw [← Nat.sub_add_cancel positive, List.take_succ_cons]
      exact List.mem_cons_self
    rcases List.mem_cons.mp member with same | later
    · exact same ▸ newest
    · exact ((List.pairwise_cons.mp ordered).1 row later).trans newest

namespace WellFormed

/-- The recency of a held row is that of its key. -/
theorem recency_eq (holds : window.WellFormed) (member : row ∈ window.rows) :
    row.recency = row.key.recency :=
  holds.resolved row member

/-- The watermark is the least bound of the recencies in the window. -/
theorem latest_le_iff (holds : window.WellFormed) {bound : WithBot Instant} :
    window.latest ≤ bound ↔ ∀ row ∈ window.rows, row.recency ≤ bound := by
  rw [← forall_mem_take_iff (Nat.le_refl 1) holds.ordered, latest, holds.watermark]
  cases window.rows with
  | nil => exact ⟨fun _ _ member => absurd member List.not_mem_nil, fun _ => bot_le⟩
  | cons first rest => simp [Row.recency]

/-- A merge raises the watermark just as far as the entries of the page ask for. -/
theorem latest_merge_le_iff (holds : window.WellFormed) {bound : WithBot Instant} :
    (window.merge page).1.latest ≤ bound ↔
      window.latest ≤ bound ∧ ∀ entry ∈ page, entry.key.recency ≤ bound := by
  rw [(holds.merge page).latest_le_iff, holds.rows_merge,
    forall_mem_take_iff holds.capacity_pos (candidates_ordered _ _), holds.latest_le_iff]
  simp only [mem_candidates]
  constructor
  · intro bounded
    refine ⟨fun row held => bounded row (Or.inr held), fun entry member => ?_⟩
    by_cases held : entry.key ∈ window.keys
    · obtain ⟨row, inWindow, same⟩ := List.mem_map.mp held
      rw [← same, ← holds.recency_eq inWindow]
      exact bounded row (Or.inr inWindow)
    · have new := mem_keys_fresh.mpr ⟨List.mem_map_of_mem member, held⟩
      obtain ⟨row, fresh, same⟩ := List.mem_map.mp new
      rw [← same, ← recency_of_mem_fresh fresh]
      exact bounded row (Or.inl fresh)
  · rintro ⟨heldBounded, pageBounded⟩ row (fresh | held)
    · have inPage := (mem_keys_fresh.mp (List.mem_map_of_mem fresh)).1
      obtain ⟨entry, member, same⟩ := List.mem_map.mp inPage
      rw [recency_of_mem_fresh fresh, ← same]
      exact pageBounded entry member
    · exact heldBounded row held

/-- The watermark is the last of the instants in the window, if there is any. -/
theorem watermark_eq_max? (holds : window.WellFormed) :
    window.watermark = (window.rows.filterMap Row.resolved).max? := by
  have bounded := holds.latest_le_iff.mp (le_refl window.latest)
  unfold latest at bounded
  cases newest : window.watermark with
  | none =>
    rw [newest] at bounded
    have unresolved : window.rows.filterMap Row.resolved = [] := by
      rw [List.filterMap_eq_nil_iff]
      exact fun row member => le_bot_iff.mp (bounded row member)
    rw [unresolved, List.max?_nil]
  | some instant =>
    rw [newest] at bounded
    symm
    rw [List.max?_eq_some_iff]
    constructor
    · rw [holds.watermark] at newest
      obtain ⟨row, first, resolved⟩ := Option.bind_eq_some_iff.mp newest
      exact List.mem_filterMap.mpr ⟨row, List.mem_of_mem_head? first, resolved⟩
    · intro other member
      obtain ⟨row, inWindow, resolved⟩ := List.mem_filterMap.mp member
      have bound := bounded row inWindow
      unfold Row.recency at bound
      rw [resolved] at bound
      exact WithBot.coe_le_coe.mp bound

end WellFormed

/-- Whatever operations are applied to an empty window, in whatever order, the window is well
formed, and its watermark is the last instant in it. -/
theorem run_empty_wellFormed (capacity : Nat) (operations : List Operation) :
    let window := (empty capacity).run operations
    window.WellFormed ∧ window.watermark = (window.rows.filterMap Row.resolved).max? := by
  have holds : ((empty capacity).run operations).WellFormed :=
    Reachable.wellFormed ⟨capacity, operations, rfl⟩
  exact ⟨holds, holds.watermark_eq_max?⟩

end Window

end QueryTail
