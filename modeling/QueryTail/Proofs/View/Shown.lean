import QueryTail.Proofs.View.Step

/-!
# Which rows a view shows

The places of the shown rows are kept beside the rows and the filter, and not every change of these
two brings them up to date. They are those of one definite filter applied to the rows as they are
now: the filter of the latest moment that did bring them up to date (`appliedFilter`). Every later
change of the rows would have been such a moment itself; a later edit of the filter is not.
-/

namespace QueryTail

namespace Filter

instance (filter : Filter) : DecidablePred filter.Accepts :=
  fun _ => inferInstanceAs (Decidable (_ = true))

@[simp] theorem apply_nil (filter : Filter) : filter.apply [] = [] := by
  simp [apply]

/-- The places that a filter gives are those of the rows that it accepts, in their order. -/
theorem map_getElem?_apply (filter : Filter) (rows : List Row) :
    (filter.apply rows).map (rows[·]?) = (rows.filter (filter.Accepts ·)).map some := by
  unfold apply
  split
  · next empty =>
    have all : rows.filter (filter.Accepts ·) = rows :=
      List.filter_eq_self.mpr fun row _ => decide_eq_true (accepts_of_isEmpty empty row)
    rw [all]
    exact List.ext_getElem (by simp) (by simp)
  · have kept : (rows.zipIdx.filter fun item => decide (filter.Accepts item.1)).map Prod.fst =
        rows.filter (filter.Accepts ·) := by
      conv_rhs => rw [← List.zipIdx_map_fst 0 rows, List.filter_map]
      rfl
    rw [← kept, List.map_map, List.map_map]
    have same :
        (fun item : Row × Nat => filter.passes (Text.lowercase filter.search.toList) item.1) =
        fun item => decide (filter.Accepts item.1) := by
      funext item
      exact Bool.decide_eq_true.symm
    rw [same]
    refine List.map_congr_left fun item member => ?_
    exact List.mem_zipIdx_iff_getElem?.mp (List.mem_filter.mp member).1

end Filter

namespace View

variable {view after : View} {operation : Operation} {operations : List Operation}

/-- The filter at the latest moment that brought the places of the shown rows up to date, the
beginning of the run included. -/
def appliedFilter (start : View) (operations : List Operation) : Filter :=
  ((start.moments operations).reverse.find? Moment.refreshes).elim start.filter (·.view.filter)

/-- A last operation applies the filter of the view before it, if it applies one at all. -/
theorem appliedFilter_concat (start : View) (operations : List Operation) (operation : Operation) :
    start.appliedFilter (operations ++ [operation]) =
      if (Moment.mk (start.run operations) operation).refreshes then (start.run operations).filter
      else start.appliedFilter operations := by
  rw [appliedFilter, moments_concat, List.reverse_concat, List.find?_cons]
  cases (Moment.mk (start.run operations) operation).refreshes <;> rfl

/-- Every edit of the filter is followed by an application of the filter. -/
def AppliesEdits (operations : List Operation) : Prop :=
  ∀ before filter after, operations = before ++ .setFilter filter :: after → .applyFilter ∈ after

/-- A step brings the places up to date, or leaves places and rows alone. -/
theorem Step.shown {filter : Filter} (step : view.Step operation after)
    (applied : view.shown = filter.apply view.rows) :
    after.shown =
      (if (Moment.mk view operation).refreshes then view.filter else filter).apply after.rows := by
  cases step with
  | session changes rows shown => rw [rows, shown, Filter.apply_nil]
  | edited => exact applied
  | filtered => rfl
  | expired => exact applied
  | @resized capacity window inside tails =>
    have refreshes : (Moment.mk view (.setCapacity capacity)).refreshes = true := by
      simp [Moment.refreshes, isTailing, tails, setCapacity_of_some inside tails, Except.isOk,
        Except.toBool]
    rw [if_pos refreshes]
    rfl
  | @merged generation now node status page window accepts tails new =>
    have refreshes :
        (Moment.mk view (.handle (.page generation node page) now)).refreshes = true := by
      simp [Moment.refreshes, handle_page accepts, acceptPage_of_not_isNoop tails new, new]
    rw [if_pos refreshes, ← filter_takePage view window page now]
    rfl
  | quiet stays rows marks shown =>
    rw [if_neg (Bool.eq_false_iff.mp stays), rows, shown]
    exact applied

/-- Only an edit changes the filter. -/
theorem Step.filter_eq (step : view.Step operation after) :
    (∃ filter, operation = .setFilter filter) ∨ after.filter = view.filter := by
  cases step with
  | edited filter => exact Or.inl ⟨filter, rfl⟩
  | session changes rows shown marks same => exact Or.inr same
  | filtered => exact Or.inr rfl
  | expired => exact Or.inr rfl
  | resized => exact Or.inr rfl
  | merged => exact Or.inr (filter_takePage _ _ _ _)
  | quiet stays rows marks shown same => exact Or.inr same

/-- A view that shows what its filter lets through always shows what the filter applied last lets
through. -/
theorem shown_run_of_shown {start : View} (shown : start.shown = start.filter.apply start.rows)
    (operations : List Operation) :
    (start.run operations).shown =
      (start.appliedFilter operations).apply (start.run operations).rows := by
  induction operations using List.reverseRecOn with
  | nil => exact shown
  | append_singleton earlier operation ih =>
    rw [run_concat, appliedFilter_concat]
    exact (step_apply _ operation).shown ih

/-- The places are those of the current filter, unless an edit of it was not yet followed by an
application. -/
theorem appliedFilter_eq_or (start : View) (operations : List Operation) :
    start.appliedFilter operations = (start.run operations).filter ∨
      ∃ before filter after, operations = before ++ .setFilter filter :: after ∧
        .applyFilter ∉ after := by
  induction operations using List.reverseRecOn with
  | nil => exact Or.inl rfl
  | append_singleton earlier operation ih =>
    rw [run_concat, appliedFilter_concat]
    rcases (step_apply (start.run earlier) operation).filter_eq with ⟨filter, rfl⟩ | same
    · exact Or.inr ⟨earlier, filter, [], rfl, List.not_mem_nil⟩
    · rw [same]
      by_cases refreshes : (Moment.mk (start.run earlier) operation).refreshes = true
      · exact Or.inl (if_pos refreshes)
      · rw [if_neg refreshes]
        refine ih.imp_right ?_
        rintro ⟨before, filter, after, rfl, unapplied⟩
        refine ⟨before, filter, after ++ [operation], by simp, ?_⟩
        rw [List.mem_append, List.mem_singleton, not_or]
        refine ⟨unapplied, ?_⟩
        rintro rfl
        exact refreshes rfl

/-- A view shows the rows that its filter accepts, if the places are up to date. -/
theorem visibleRows_of_shown (shown : view.shown = view.filter.apply view.rows) :
    view.visibleRows = view.rows.filter (view.filter.Accepts ·) := by
  have shows : view.ShowsRows :=
    ⟨shown ▸ view.filter.apply_increasing view.rows,
      fun _ member => Filter.lt_length_of_mem_apply (shown ▸ member)⟩
  have same := shows.map_visibleRows
  rw [shown, Filter.map_getElem?_apply] at same
  exact List.map_injective_iff.mpr (Option.some_injective Row) same

/-- After any operations the places of the shown rows are those that the filter applied last gives
for the rows as they are. If every edit of the filter is followed by an application, the view shows
just the rows that its filter accepts, in window order. -/
theorem shown_run (capacity : Nat) (policy : CapacityPolicy) (lifetime : Nat)
    (operations : List Operation) :
    let start := new capacity policy lifetime
    let view := start.run operations
    view.shown = (start.appliedFilter operations).apply view.rows ∧
      (AppliesEdits operations →
        view.visibleRows = view.rows.filter (view.filter.Accepts ·)) := by
  intro start view
  have shown : view.shown = (start.appliedFilter operations).apply view.rows :=
    shown_run_of_shown (by rfl) operations
  refine ⟨shown, fun applies => visibleRows_of_shown ?_⟩
  rcases start.appliedFilter_eq_or operations with same | ⟨before, filter, after, split, unapplied⟩
  · rw [shown, same]
  · exact absurd (applies before filter after split) unapplied

/-- A filter that is edited between two pages and applied behind the second. -/
theorem shown_run_edited :
    let first : Entry := ⟨"A", 1, some "2024-05-01T10:00:01Z", some "a.example", []⟩
    let second : Entry := ⟨"B", 1, none, some "b.example", []⟩
    let operations : List Operation :=
      [.enter 7, .handle (.page 7 "A" [first]) 0, .setFilter (.singleSource "A"),
        .handle (.page 7 "B" [second]) 1, .applyFilter, .setCapacity 1]
    let view := (new 2 .retain 10).run operations
    AppliesEdits operations ∧ view.visibleRows = view.rows.filter (view.filter.Accepts ·) := by
  intro first second operations view
  have applies : AppliesEdits operations := by
    intro before filter after split
    have behind : after = [.handle (.page 7 "B" [second]) 1, .applyFilter, .setCapacity 1] := by
      simp [operations, List.cons_eq_append_iff] at split
      exact split.2.2
    simp [behind]
  exact ⟨applies, (shown_run 2 .retain 10 operations).2 applies⟩

end View

end QueryTail
