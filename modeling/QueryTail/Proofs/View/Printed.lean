import QueryTail.Proofs.View.Recent
import QueryTail.Proofs.View.Shown

/-!
# What is printed of a page

After a merge the console prints the shown rows whose keys the merge reports as new. Three lists
come together there: the reported keys, the places of the shown rows, and the rows. They agree about
the rows that have just arrived: the reported keys are those that the window has and did not have
before, and unless nothing is new the places are up to date with rows and filter.

So one line is printed for each row that the page brought into the window and that the filter
accepts, oldest first (`newLines_handle_page`). A row that was held is not printed again, and a row
that the merge brought and pushed out does not get that far.
-/

namespace QueryTail

namespace View

variable {view : View} {window : Window} {page : List Entry} {generation : Nat}

/-- The rows that a view has and another before it had not, as far as its filter accepts them,
newest first. -/
def arrivals (before after : View) : List Row :=
  after.rows.filter fun row => row.key ∉ before.keys ∧ after.filter.Accepts row

/-- Nothing arrives in a view whose rows stay. -/
theorem arrivals_of_rows {after : View} (same : after.rows = view.rows) :
    view.arrivals after = [] := by
  refine List.filter_eq_nil_iff.mpr fun row held => ?_
  simp [keys, List.mem_map_of_mem (same ▸ held)]

/-- The new lines are those of the visible rows with new keys, oldest first. -/
theorem newLines_eq (view : View) (result : MergeResult) :
    view.newLines result =
      ((view.visibleRows.filter (·.key ∈ result.newKeys)).map Row.line).reverse := by
  simp only [newLines, Std.HashSet.contains_ofList, List.contains_eq_mem]

/-- A merge that found nothing new reports no key, and so nothing is printed. -/
theorem newLines_of_isNoop (view : View) (wellFormed : window.WellFormed)
    (noop : (window.merge page).2.isNoop = true) : view.newLines (window.merge page).2 = [] := by
  have reported : (window.merge page).2.newKeys = [] := by
    rw [wellFormed.newKeys_merge_eq, Window.merge_of_isNoop noop, List.filter_eq_nil_iff]
    exact fun key held => by simpa using held
  rw [newLines_eq, reported]
  simp

/-- Where the places of the shown rows are up to date, the reported keys pick the arrivals. -/
theorem newLines_of_shown {after : View} (tails : view.window = some window)
    (wellFormed : window.WellFormed) (rows : after.rows = (window.merge page).1.rows)
    (shown : after.shown = after.filter.apply after.rows) :
    after.newLines (window.merge page).2 = ((view.arrivals after).map Row.line).reverse := by
  have same : view.keys = window.keys := by rw [keys, rows_of_window tails, Window.keys]
  rw [newLines_eq, visibleRows_of_shown shown, List.filter_filter, arrivals, same]
  congr 2
  refine List.filter_congr fun row held => ?_
  have kept : row.key ∈ (window.merge page).1.keys := List.mem_map_of_mem (rows ▸ held)
  simp [wellFormed.mem_newKeys_iff kept]

/-- An accepted page is merged, and its arrivals are printed. -/
theorem newLines_handle_page (holds : view.WellFormed) (accepts : view.generation = some generation)
    (node : String) (page : List Entry) (now : Nat) :
    let handled := view.handle (.page generation node page) now
    ∃ result, handled.2 = some result ∧ handled.1.filter = view.filter ∧
      handled.1.newLines result = ((view.arrivals handled.1).map Row.line).reverse ∧
      (result.isNoop = true → handled.1.newLines result = []) := by
  obtain ⟨window, tails⟩ : ∃ window, view.window = some window := by
    rw [← Option.isSome_iff_exists, holds.tailing, accepts, Option.isSome_some]
  have wellFormed := holds.wellFormed window tails
  rw [handle_page accepts]
  cases new : (window.merge page).2.isNoop with
  | true =>
    have nothing := view.newLines_of_isNoop wellFormed new
    rw [acceptPage_of_isNoop tails new]
    exact ⟨_, rfl, rfl, by rw [nothing, arrivals_of_rows rfl]; rfl, fun _ => nothing⟩
  | false =>
    rw [acceptPage_of_not_isNoop tails new]
    refine ⟨_, rfl, filter_takePage view window page now, ?_, fun noop => ?_⟩
    · exact newLines_of_shown tails wellFormed (rows_takePage view window page now) rfl
    · exact absurd (new.symm.trans noop) Bool.false_ne_true

end View

end QueryTail
