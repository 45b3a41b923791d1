import QueryTail.Proofs.Filter
import QueryTail.Proofs.Marks
import QueryTail.Proofs.Window.Invariant
import QueryTail.View

/-!
# What holds of every view

A view keeps three things that are derived from its window: the generation that it listens to, the
marks, and the places of the shown rows. `WellFormed` says that they agree with the window. Marks
may outlive their time, but never the row of their key; places are those of rows that are there.

The marks are pruned only when rows were pushed out. That is enough because a merge that pushes
nothing out loses no key (`Window.WellFormed.keys_subset_merge`).
-/

namespace QueryTail

namespace Window

variable {window : Window} {page : List Entry} {key : Key}

/-- The keys that a merge reports are in the window. -/
theorem mem_keys_of_mem_newKeys (new : key ∈ (window.merge page).2.newKeys) :
    key ∈ (window.merge page).1.keys := by
  rw [newKeys_merge] at new
  exact List.mem_of_mem_filter new

/-- A merge that found nothing new leaves the window as it is. -/
theorem merge_of_isNoop (noop : (window.merge page).2.isNoop = true) :
    (window.merge page).1 = window := by
  rw [MergeResult.isNoop, beq_iff_eq, newCount_merge, List.length_eq_zero_iff] at noop
  exact merge_of_fresh_eq_nil noop

/-- A merge that pushes nothing out loses no key. -/
theorem WellFormed.keys_subset_merge (holds : window.WellFormed)
    (none : (window.merge page).2.evicted = 0) : window.keys ⊆ (window.merge page).1.keys := by
  intro key held
  rw [holds.evicted_merge, Nat.sub_eq_zero_iff_le, ← length_candidates] at none
  rw [keys, holds.rows_merge, List.take_of_length_le none]
  exact mem_keys_candidates.mpr (Or.inl held)

end Window

namespace View

variable {view : View} {capacity generation now : Nat} {page : List Entry} {key : Key}

/-! ### The facts -/

/-- There is a window while a generation is accepted. It has the capacity of the view, which is in
its bounds. -/
structure HasWindow (view : View) : Prop where
  tailing : view.window.isSome = view.generation.isSome
  wellFormed : ∀ window, view.window = some window → window.WellFormed
  capacity_eq : ∀ window, view.window = some window → window.capacity = view.capacity
  one_le_capacity : 1 ≤ view.capacity
  capacity_le : view.capacity ≤ 10000

/-- Every key with a mark, whether it has run out or not, is the key of a row. -/
def MarksHeld (view : View) : Prop :=
  ∀ key, key ∈ view.marks.expiries → key ∈ view.rows.map Row.key

/-- The places of the shown rows are places of rows, in ascending order. -/
structure ShowsRows (view : View) : Prop where
  increasing : view.shown.Pairwise (· < ·)
  inside : ∀ place ∈ view.shown, place < view.rows.length

/-- What holds of every view that operations lead to. -/
structure WellFormed (view : View) : Prop extends HasWindow view, ShowsRows view where
  marksHeld : view.MarksHeld
  warnings_le : view.warnings.length ≤ 1000

/-- In a session the rows of the view are those of its window. -/
theorem rows_of_window {window : Window} (tails : view.window = some window) :
    view.rows = window.rows := by
  rw [rows, tails]

/-- If all shown places are places of rows, every one of them shows its row. -/
theorem ShowsRows.map_visibleRows (shows : view.ShowsRows) :
    view.visibleRows.map some = view.shown.map fun place => view.rows[place]? := by
  obtain ⟨-, inside⟩ := shows
  unfold visibleRows
  dsimp only
  generalize view.shown = places at inside ⊢
  induction places with
  | nil => rfl
  | cons place rest ih =>
    have found : view.rows[place]? = some _ :=
      List.getElem?_eq_getElem (inside place List.mem_cons_self)
    rw [List.filterMap_cons_some (List.getElem?_toArray.trans found), List.map_cons, List.map_cons,
      ih fun other member => inside other (List.mem_cons_of_mem place member), found]

/-! ### Derived state is brought up to date -/

/-- After filtering, the view shows places of its rows. -/
theorem showsRows_applyFilter (view : View) : view.applyFilter.ShowsRows where
  increasing := view.filter.apply_increasing view.rows
  inside _ := Filter.lt_length_of_mem_apply

/-- After pruning, only keys of rows are marked. -/
theorem marksHeld_pruneMarks (view : View) : view.pruneMarks.MarksHeld := by
  intro key marked
  have kept := (Marks.mem_retain.mp marked).2
  rwa [Window.contains_keySet, List.contains_iff_mem] at kept

namespace HasWindow

/-- Whether there is a window and what it holds does not depend on marks, filter and texts. -/
theorem congr {other : View} (holds : view.HasWindow) (window : other.window = view.window)
    (generation : other.generation = view.generation) (capacity : other.capacity = view.capacity) :
    other.HasWindow := by
  obtain ⟨tailing, wellFormed, capacityEq, positive, bounded⟩ := holds
  constructor <;> simp only [window, generation, capacity] <;> assumption

/-- With marks and places brought up to date, all facts hold. -/
theorem wellFormed_refresh (holds : view.HasWindow) (warnings : view.warnings.length ≤ 1000) :
    view.pruneMarks.applyFilter.WellFormed where
  toHasWindow := holds.congr rfl rfl rfl
  toShowsRows := showsRows_applyFilter view.pruneMarks
  marksHeld := marksHeld_pruneMarks view
  warnings_le := warnings

end HasWindow

/-! ### What the operations do -/

section Operations

variable {window : Window} {node : String}

/-- Outside a session a new capacity is kept for the next one. -/
theorem setCapacity_of_none (inside : Limits.capacity.holds capacity = true)
    (idle : view.window = none) : view.setCapacity capacity = .ok { view with capacity } := by
  simp [setCapacity, inside, idle]

/-- In a session a new capacity also goes to the window. -/
theorem setCapacity_of_some (inside : Limits.capacity.holds capacity = true)
    (tails : view.window = some window) :
    view.setCapacity capacity =
      .ok { view with
        capacity
        window := some (window.setCapacity capacity view.policy).1 }.pruneMarks.applyFilter := by
  simp [setCapacity, inside, tails]

/-- A capacity out of its range is refused. -/
theorem setCapacity_of_outside (outside : Limits.capacity.holds capacity = false) :
    view.setCapacity capacity = .error (capacityFault capacity) := by
  simp [setCapacity, outside]

/-- Outside a session a page changes nothing. -/
theorem acceptPage_of_none (idle : view.window = none) :
    view.acceptPage node page now = (view, none) := by
  simp [acceptPage, idle]

/-- A page without new keys changes nothing. -/
theorem acceptPage_of_isNoop (tails : view.window = some window)
    (noop : (window.merge page).2.isNoop = true) :
    view.acceptPage node page now = (view, some (window.merge page).2) := by
  unfold acceptPage
  rw [tails]
  dsimp only
  rw [if_pos noop, Window.merge_of_isNoop noop, ← tails]

/-- The view after its window took a page, with the marks of the rows that it holds now. -/
def takePage (view : View) (window : Window) (page : List Entry) (now : Nat) : View :=
  let merged := window.merge page
  let marked :=
    { view with window := some merged.1, marks := view.marks.mark merged.2.newKeys now }
  if 0 < merged.2.evicted then marked.pruneMarks else marked

/-- A page with new keys is merged, its keys are marked, and the filter is applied. -/
theorem acceptPage_of_not_isNoop (tails : view.window = some window)
    (new : (window.merge page).2.isNoop = false) :
    let result := (window.merge page).2
    let taken := (view.takePage window page now).applyFilter
    let status :=
      s!"{result.newCount} new from {node}; showing {taken.shown.length} of {result.retained}."
    view.acceptPage node page now = ({ taken with status }, some result) := by
  simp [acceptPage, takePage, tails, new]

end Operations

/-! ### Operations keep the facts -/

namespace HasWindow

/-- With a new capacity in the range, a view has its window with that capacity. -/
theorem setCapacity (holds : view.HasWindow) {window : Window} (tails : view.window = some window)
    (inside : Limits.capacity.holds capacity = true) :
    HasWindow
      { view with capacity, window := some (window.setCapacity capacity view.policy).1 } := by
  obtain ⟨positive, bounded⟩ := Limits.holds_iff.mp inside
  have tailing := holds.tailing
  rw [tails] at tailing
  refine ⟨tailing, ?_, ?_, positive, bounded⟩
  · rintro _ ⟨rfl⟩
    exact (holds.wellFormed window tails).setCapacity capacity view.policy
  · rintro _ ⟨rfl⟩
    exact Nat.max_eq_left positive

/-- A view that takes a page still has its window. -/
theorem takePage (holds : view.HasWindow) {window : Window} (tails : view.window = some window)
    (page : List Entry) (now : Nat) : (view.takePage window page now).HasWindow := by
  have merged : HasWindow { view with window := some (window.merge page).1 } := by
    have tailing := holds.tailing
    rw [tails] at tailing
    refine ⟨tailing, ?_, ?_, holds.one_le_capacity, holds.capacity_le⟩
    · rintro _ ⟨rfl⟩
      exact (holds.wellFormed window tails).merge page
    · rintro _ ⟨rfl⟩
      rw [Window.capacity_merge, holds.capacity_eq window tails]
  unfold View.takePage
  dsimp only
  split <;> exact merged.congr rfl rfl rfl

end HasWindow

/-- Taking a page, the view prunes marks only if rows were pushed out; it never has to otherwise. -/
theorem MarksHeld.takePage {window : Window} (marksHeld : view.MarksHeld)
    (tails : view.window = some window) (wellFormed : window.WellFormed) (page : List Entry)
    (now : Nat) : (view.takePage window page now).MarksHeld := by
  unfold View.takePage
  dsimp only
  split
  · exact marksHeld_pruneMarks _
  · next none =>
    have kept := wellFormed.keys_subset_merge (Nat.eq_zero_of_not_pos none)
    intro key marked
    rcases Marks.mem_mark.mp marked with new | old
    · exact Window.mem_keys_of_mem_newKeys new
    · have held := marksHeld key old
      rw [rows_of_window tails] at held
      exact kept held

@[simp] theorem warnings_takePage (view : View) (window : Window) (page : List Entry) (now : Nat) :
    (view.takePage window page now).warnings = view.warnings := by
  unfold takePage
  dsimp only
  split <;> rfl

namespace WellFormed

/-- The facts do not depend on policy, filter and status. -/
theorem congr (holds : view.WellFormed) (policy : CapacityPolicy) (filter : Filter)
    (status : String) : WellFormed { view with policy, filter, status } :=
  { holds with }

/-- Other warnings keep a view well-formed, if they are not too many. -/
theorem warnings (holds : view.WellFormed) {warnings : List String}
    (bounded : warnings.length ≤ 1000) : WellFormed { view with warnings } :=
  { holds with warnings_le := bounded }

/-- A session begins with a well-formed view. -/
theorem enter (holds : view.WellFormed) (generation : Nat) :
    (view.enter generation).WellFormed where
  tailing := rfl
  wellFormed window same := by
    obtain rfl := Option.some.inj same
    exact Window.wellFormed_empty view.capacity
  capacity_eq window same := by
    obtain rfl := Option.some.inj same
    exact Nat.max_eq_left holds.one_le_capacity
  one_le_capacity := holds.one_le_capacity
  capacity_le := holds.capacity_le
  increasing := List.Pairwise.nil
  inside _ member := absurd member List.not_mem_nil
  marksHeld _ marked := absurd marked Marks.not_mem_clear
  warnings_le := holds.warnings_le

/-- A view without a window has nothing to agree with. -/
theorem of_idle (idle : view.window = none) (deaf : view.generation = none)
    (unmarked : ∀ key, key ∉ view.marks.expiries) (hidden : view.shown = [])
    (positive : 1 ≤ view.capacity) (bounded : view.capacity ≤ 10000)
    (few : view.warnings.length ≤ 1000) : view.WellFormed where
  tailing := by rw [idle, deaf, Option.isSome_none, Option.isSome_none]
  wellFormed _ tails := absurd (idle.symm.trans tails).symm (Option.some_ne_none _)
  capacity_eq _ tails := absurd (idle.symm.trans tails).symm (Option.some_ne_none _)
  one_le_capacity := positive
  capacity_le := bounded
  increasing := hidden ▸ List.Pairwise.nil
  inside _ member := absurd (hidden ▸ member) List.not_mem_nil
  marksHeld key marked := absurd marked (unmarked key)
  warnings_le := few

/-- A session ends with a well-formed view. -/
theorem exit (holds : view.WellFormed) : view.exit.WellFormed :=
  of_idle rfl rfl (fun _ => Marks.not_mem_clear) rfl holds.one_le_capacity holds.capacity_le
    holds.warnings_le

/-- A new capacity keeps a view well-formed. -/
theorem setCapacity {changed : View} (holds : view.WellFormed)
    (accepted : view.setCapacity capacity = .ok changed) : changed.WellFormed := by
  cases inside : Limits.capacity.holds capacity with
  | false =>
    rw [setCapacity_of_outside inside] at accepted
    cases accepted
  | true =>
    cases tails : view.window with
    | none =>
      rw [setCapacity_of_none inside tails] at accepted
      obtain rfl := Except.ok.inj accepted
      obtain ⟨positive, bounded⟩ := Limits.holds_iff.mp inside
      have idle (window : Window) : view.window ≠ some window := by simp [tails]
      exact
        { holds with
          capacity_eq := fun window same => absurd same (idle window)
          one_le_capacity := positive
          capacity_le := bounded }
    | some window =>
      rw [setCapacity_of_some inside tails] at accepted
      obtain rfl := Except.ok.inj accepted
      exact (holds.toHasWindow.setCapacity tails inside).wellFormed_refresh holds.warnings_le

/-- Applying the filter keeps a view well-formed. -/
theorem applyFilter (holds : view.WellFormed) : view.applyFilter.WellFormed :=
  { holds with toShowsRows := showsRows_applyFilter view }

/-- Expiring marks keeps a view well-formed. -/
theorem expireMarks (holds : view.WellFormed) (now : Nat) : (view.expireMarks now).1.WellFormed :=
  { holds with marksHeld := fun key marked => holds.marksHeld key (Marks.mem_of_mem_expire marked) }

/-- A warning keeps a view well-formed, as the oldest makes room for it. -/
theorem warn (holds : view.WellFormed) (warning : String) : (view.warn warning).WellFormed := by
  refine holds.warnings ?_
  have bounded := holds.warnings_le
  have limit : maxWarnings = 1000 := rfl
  rw [List.length_append, List.length_singleton]
  split
  · rw [List.length_tail]
    omega
  · omega

/-- A page keeps a view well-formed. -/
theorem acceptPage (holds : view.WellFormed) (node : String) (page : List Entry) (now : Nat) :
    (view.acceptPage node page now).1.WellFormed := by
  cases tails : view.window with
  | none =>
    rw [acceptPage_of_none tails]
    exact holds
  | some window =>
    cases new : (window.merge page).2.isNoop with
    | true =>
      rw [acceptPage_of_isNoop tails new]
      exact holds
    | false =>
      rw [acceptPage_of_not_isNoop tails new]
      have marksHeld := holds.marksHeld.takePage tails (holds.wellFormed window tails) page now
      have taken : (view.takePage window page now).applyFilter.WellFormed :=
        { (holds.toHasWindow.takePage tails page now).congr rfl rfl rfl,
          showsRows_applyFilter _ with
          marksHeld := marksHeld
          warnings_le := (warnings_takePage view window page now).symm ▸ holds.warnings_le }
      exact taken.congr _ _ _

/-- A message keeps a view well-formed. -/
theorem handle (holds : view.WellFormed) (message : Progress) (now : Nat) :
    (view.handle message now).1.WellFormed := by
  unfold View.handle
  split
  · cases message with
    | started generation nodeCount => exact holds.congr _ _ _
    | page generation node entries => exact holds.acceptPage node entries now
    | fetchFailed generation node message => exact (holds.congr _ _ _).warn _
    | stopped generation => exact holds.congr _ _ _
  · exact holds

/-- An operation keeps a view well-formed. -/
theorem apply (holds : view.WellFormed) (operation : Operation) :
    (view.apply operation).WellFormed := by
  cases operation with
  | enter generation => exact holds.enter generation
  | exit => exact holds.exit
  | reset generation => exact (holds.warnings (Nat.zero_le _)).enter generation
  | setCapacity capacity =>
    dsimp only [View.apply]
    cases accepted : view.setCapacity capacity with
    | ok changed => exact holds.setCapacity accepted
    | error fault => exact holds
  | setPolicy policy => exact holds.congr _ _ _
  | setFilter filter => exact holds.congr _ _ _
  | applyFilter => exact holds.applyFilter
  | expireMarks now => exact holds.expireMarks now
  | handle message now => exact holds.handle message now

/-- Operations keep a view well-formed. -/
theorem run (holds : view.WellFormed) (operations : List Operation) :
    (view.run operations).WellFormed := by
  induction operations generalizing view with
  | nil => exact holds
  | cons operation rest ih => exact ih (holds.apply operation)

end WellFormed

/-- A new view is well-formed. -/
theorem wellFormed_new (capacity : Nat) (policy : CapacityPolicy) (lifetime : Nat) :
    (new capacity policy lifetime).WellFormed := by
  obtain ⟨positive, bounded⟩ := Limits.holds_iff.mp (Limits.capacity.holds_clamp capacity)
  exact .of_idle rfl rfl (fun _ => Marks.not_mem_empty lifetime) rfl positive bounded
    (Nat.zero_le _)

/-- Whatever operations are applied to a new view, in whatever order, it is well formed, and every
shown place shows the row at this place. -/
theorem run_new_wellFormed (capacity : Nat) (policy : CapacityPolicy) (lifetime : Nat)
    (operations : List Operation) :
    let view := (new capacity policy lifetime).run operations
    view.WellFormed ∧
      view.visibleRows.map some = view.shown.map fun place => view.rows[place]? := by
  have holds := (wellFormed_new capacity policy lifetime).run operations
  exact ⟨holds, holds.map_visibleRows⟩

end View

end QueryTail
