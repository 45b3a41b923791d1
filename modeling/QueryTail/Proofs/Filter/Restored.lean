import QueryTail.Proofs.Filter.Criteria

/-!
# What a saved filter keeps

The saved form of a filter has its sources as a sorted list, its search, and its pattern as text.
The bounds in time are not part of it. A filter that was made by edits, and with a compiler that
keeps the text of a pattern, is restored to one that passes the same rows apart from these bounds
(`apply_restore_ofFilter`).

The other way round, a saved form comes back as it was if its sources are sorted and its pattern is
not refused. If not, it is put in order once and then stays (`ofFilter_restore`).
-/

namespace QueryTail

/-- There are no distinct names only where there are no names. -/
theorem sortedDistinct_eq_nil_iff {names : List String} :
    sortedDistinct names = [] ↔ names = [] := by
  simp only [List.eq_nil_iff_forall_not_mem, mem_sortedDistinct]

namespace Filter

variable {compile : String → Option Matcher} {filter before after : Filter} {pattern : String}

/-! ### Edits -/

/-- One edit of a filter. -/
inductive Edit where
  | sources (sources : List String)
  | earliest (bound : Option Time.Instant)
  | latest (bound : Option Time.Instant)
  | search (text : String)
  | pattern (text : String)

/-- The filter after an edit. A pattern that is refused changes nothing. -/
def edit (compile : String → Option Matcher) (filter : Filter) : Edit → Filter
  | .sources sources => { filter with sources }
  | .earliest earliest => { filter with earliest }
  | .latest latest => { filter with latest }
  | .search search => { filter with search }
  | .pattern text =>
    match filter.setPattern compile text with
    | .ok changed => changed
    | .error _ => filter

/-- The filter after edits, in order. -/
def edited (compile : String → Option Matcher) (filter : Filter) (edits : List Edit) : Filter :=
  edits.foldl (edit compile) filter

/-- The filter without its bounds in time. -/
def untimed (filter : Filter) : Filter :=
  { filter with earliest := Option.none, latest := Option.none }

/-- The filter without criteria is compiled, as it has no matcher. -/
theorem compiled_none : none.Compiled compile :=
  fun _ absent => nomatch absent

/-- An edit keeps a filter compiled. -/
theorem Compiled.edit
    (faithful : ∀ pattern matcher, compile pattern = some matcher → matcher.pattern = pattern)
    (compiled : filter.Compiled compile) (edit : Edit) :
    (filter.edit compile edit).Compiled compile := by
  cases edit with
  | sources | earliest | latest | search => exact compiled
  | pattern text =>
    dsimp only [Filter.edit]
    split
    · next changed set => exact compiled_of_setPattern faithful set
    · exact compiled

/-- Whatever the edits, the pattern of the filter is one that compiles. -/
theorem compiled_edited
    (faithful : ∀ pattern matcher, compile pattern = some matcher → matcher.pattern = pattern)
    (compiled : filter.Compiled compile) (edits : List Edit) :
    (filter.edited compile edits).Compiled compile :=
  List.foldlRecOn edits _ compiled fun _ compiled edit _ => compiled.edit faithful edit

/-- A pattern that one filter takes is taken by every other, and it is the pattern afterwards. -/
theorem setPattern_of_setPattern
    (faithful : ∀ pattern matcher, compile pattern = some matcher → matcher.pattern = pattern)
    (set : before.setPattern compile pattern = .ok after) (filter : Filter) :
    ∃ matcher, filter.setPattern compile pattern = .ok { filter with matcher } ∧
      (matcher.map Matcher.pattern).getD "" = pattern := by
  unfold setPattern at set ⊢
  split at set
  · next empty =>
    exact ⟨Option.none, if_pos empty, (String.isEmpty_iff.mp empty).symm⟩
  · next present =>
    rw [if_neg present]
    split at set
    · cases set
    · next fits =>
      rw [if_neg fits]
      split at set
      · cases set
      · next matcher compiles =>
        exact ⟨some matcher, rfl, faithful pattern matcher compiles⟩

/-! ### The effect of a filter -/

/-- Filters that pass the same rows give the same places. -/
theorem apply_congr {other : Filter} {rows : List Row}
    (same : ∀ row, filter.Accepts row ↔ other.Accepts row) :
    filter.apply rows = other.apply rows := by
  refine (filter.apply_increasing rows).eq_of_mem_iff (other.apply_increasing rows) fun place => ?_
  simp only [mem_apply, same]

/-- Which rows pass does not depend on the order of the sources. -/
theorem accepts_sortedDistinct_iff (filter : Filter) (row : Row) :
    ({ filter with sources := sortedDistinct filter.sources } : Filter).Accepts row ↔
      filter.Accepts row := by
  have same : ({ filter with sources := sortedDistinct filter.sources } : Filter).passesSource row =
      filter.passesSource row := by
    rw [Bool.eq_iff_iff, passesSource_iff, passesSource_iff, Ne, Ne, sortedDistinct_eq_nil_iff,
      mem_sortedDistinct]
  unfold Accepts passes
  rw [same]
  rfl

end Filter

namespace SavedFilter

variable {compile : String → Option Matcher} {filter before after : Filter} {saved : SavedFilter}

/-- What is restored of a filter passes the rows that the filter passes without its bounds. -/
theorem apply_restore_ofFilter (compiled : filter.Compiled compile) (rows : List Row) :
    ((ofFilter filter).restore compile).apply rows = filter.untimed.apply rows := by
  rw [restore_ofFilter compiled]
  exact Filter.apply_congr filter.untimed.accepts_sortedDistinct_iff

/-- A saved form in order, with a pattern that is not refused, is saved of its filter. -/
theorem ofFilter_restore_of_ascending
    (faithful : ∀ pattern matcher, compile pattern = some matcher → matcher.pattern = pattern)
    (ascending : saved.sources.Pairwise (· < ·))
    (accepted : before.setPattern compile saved.pattern = .ok after) :
    ofFilter (saved.restore compile) = saved := by
  obtain ⟨matcher, set, pattern⟩ := Filter.setPattern_of_setPattern faithful accepted
    { Filter.none with sources := saved.sources, search := saved.search }
  unfold restore
  dsimp only
  rw [set, ofFilter, Filter.pattern, pattern, sortedDistinct_of_ascending ascending]

/-- Saving and restoring a filter that was made by edits loses nothing but the bounds in time: the
same rows pass. A saved form with sorted sources and a pattern that is not refused is the same after
it was restored and saved, and every other is after it was once. -/
theorem restored_edited (compile : String → Option Matcher)
    (faithful : ∀ pattern matcher, compile pattern = some matcher → matcher.pattern = pattern)
    (edits : List Filter.Edit) :
    let filter := Filter.none.edited compile edits
    let again (saved : SavedFilter) := ofFilter (saved.restore compile)
    (∀ rows, ((ofFilter filter).restore compile).apply rows = filter.untimed.apply rows) ∧
      (∀ (saved : SavedFilter) (before after : Filter), saved.sources.Pairwise (· < ·) →
        before.setPattern compile saved.pattern = .ok after → again saved = saved) ∧
      ∀ saved, again (again saved) = again saved := by
  intro filter again
  have compiled : filter.Compiled compile :=
    Filter.compiled_edited faithful Filter.compiled_none edits
  refine ⟨apply_restore_ofFilter compiled, ?_, ?_⟩
  · exact fun saved before after => ofFilter_restore_of_ascending faithful
  · exact fun saved => ofFilter_restore (compiled_restore faithful)

/-- Sources are named in disorder and twice, one pattern is refused, and there is a bound in time.
Of the saved forms one is in order and one is not. -/
theorem restored_edited_bounded :
    let compile : String → Option Matcher := fun pattern =>
      if pattern = "(" then Option.none
      else some ⟨pattern, fun text => Filter.occursIn pattern.toList text.toList⟩
    let filter := Filter.none.edited compile
      [.sources ["ns2", "ns1", "ns2"], .pattern "ads", .earliest (some ⟨0, 0⟩), .pattern "(",
        .search "X"]
    let ordered : SavedFilter := ⟨["ns1", "ns2"], "X", "ads"⟩
    let unordered : SavedFilter := ⟨["ns2", "ns1"], "X", "("⟩
    let again (saved : SavedFilter) := ofFilter (saved.restore compile)
    (∀ pattern matcher, compile pattern = some matcher → matcher.pattern = pattern) ∧
      ofFilter filter = ordered ∧ filter.earliest.isSome ∧
      (∀ rows, (ordered.restore compile).apply rows = filter.untimed.apply rows) ∧
      again ordered = ordered ∧ again unordered = { ordered with pattern := "" } ∧
      again (again unordered) = again unordered := by
  intro compile filter ordered unordered again
  have faithful :
      ∀ pattern matcher, compile pattern = some matcher → matcher.pattern = pattern := by
    intro pattern matcher compiled
    obtain ⟨-, same⟩ := Option.ite_none_left_eq_some.mp compiled
    rw [← Option.some.inj same]
  have saved : ofFilter filter = ordered := by decide +kernel
  have kept := restored_edited compile faithful
    [.sources ["ns2", "ns1", "ns2"], .pattern "ads", .earliest (some ⟨0, 0⟩), .pattern "(",
      .search "X"]
  have accepted : Filter.none.setPattern compile ordered.pattern =
      .ok { Filter.none with matcher := compile "ads" } := by rfl
  refine ⟨faithful, saved, rfl, ?_, kept.2.1 ordered _ _ (by decide +kernel) accepted,
    by decide +kernel, kept.2.2 unordered⟩
  rw [← saved]
  exact kept.1

end SavedFilter

end QueryTail
