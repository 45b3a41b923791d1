import Mathlib.Data.List.Sort
import Mathlib.Data.String.Basic
import QueryTail.Filter

/-!
# The places that a filter gives

Applying a filter gives places in a list of rows. They stand in ascending order, and they are those
of the rows that pass (`mem_apply`); the two facts together leave no choice of the list. The same
holds of names that are sorted, each kept once.

What is saved of a filter is the same again after it was restored, as long as the pattern is one
that compiles (`SavedFilter.ofFilter_restore`).
-/

namespace QueryTail

/-! ### Sorted names -/

section SortedDistinct

variable {names held : List String} {name other : String}

@[simp] theorem mem_insertSorted :
    other ∈ sortedDistinct.insertSorted held name ↔ other = name ∨ other ∈ held := by
  induction held with
  | nil => simp [sortedDistinct.insertSorted]
  | cons first rest ih =>
    rw [sortedDistinct.insertSorted]
    split
    · exact List.mem_cons
    · split
      · next same => simp [same]
      · rw [List.mem_cons, ih, List.mem_cons, or_left_comm]

/-- Inserting a name keeps the order. -/
theorem insertSorted_ascending (ascending : held.Pairwise (· < ·)) :
    (sortedDistinct.insertSorted held name).Pairwise (· < ·) := by
  induction held with
  | nil => exact List.pairwise_singleton _ _
  | cons first rest ih =>
    obtain ⟨before, restAscending⟩ := List.pairwise_cons.mp ascending
    rw [sortedDistinct.insertSorted]
    split
    · next less =>
      refine List.pairwise_cons.mpr ⟨fun other member => ?_, ascending⟩
      rcases List.mem_cons.mp member with rfl | later
      · exact less
      · exact less.trans (before other later)
    · next notLess =>
      split
      · exact ascending
      · next different =>
        have greater : first < name := (lt_or_gt_of_ne different).resolve_left notLess
        refine List.pairwise_cons.mpr ⟨fun other member => ?_, ih restAscending⟩
        rcases mem_insertSorted.mp member with rfl | later
        · exact greater
        · exact before other later

/-- The names held after insertions are those inserted and those held before. -/
theorem mem_foldl_insertSorted :
    name ∈ names.foldl sortedDistinct.insertSorted held ↔ name ∈ names ∨ name ∈ held := by
  induction names generalizing held with
  | nil => simp
  | cons first rest ih =>
    rw [List.foldl_cons, ih, mem_insertSorted, List.mem_cons, or_assoc, or_left_comm]

@[simp] theorem mem_sortedDistinct : name ∈ sortedDistinct names ↔ name ∈ names := by
  rw [sortedDistinct, mem_foldl_insertSorted, or_iff_left List.not_mem_nil]

/-- Distinct names come out in ascending order. -/
theorem sortedDistinct_ascending (names : List String) :
    (sortedDistinct names).Pairwise (· < ·) :=
  List.foldlRecOn names _ List.Pairwise.nil fun _ ascending _ _ => insertSorted_ascending ascending

/-- Sorted names, each of them once, are what sorting makes of them. -/
theorem sortedDistinct_of_ascending (ascending : names.Pairwise (· < ·)) :
    sortedDistinct names = names :=
  (sortedDistinct_ascending names).eq_of_mem_iff ascending fun _ => mem_sortedDistinct

end SortedDistinct

namespace Filter

variable {filter : Filter} {rows : List Row} {row : Row} {place : Nat}

/-- A row passes a filter by all five criteria. -/
def Accepts (filter : Filter) (row : Row) : Prop :=
  filter.passes (Text.lowercase filter.search.toList) row = true

/-- Every row passes a filter without criteria. -/
theorem accepts_of_isEmpty (empty : filter.isEmpty = true) (row : Row) : filter.Accepts row := by
  simp only [isEmpty, Bool.and_eq_true, List.isEmpty_iff, Option.isNone_iff_eq_none,
    String.isEmpty_iff] at empty
  obtain ⟨⟨⟨⟨sources, earliest⟩, latest⟩, search⟩, matcher⟩ := empty
  simp [Accepts, passes, passesSource, passesEarliest, passesLatest, passesSearch, passesPattern,
    sources, earliest, latest, search, matcher]

/-- The filter lets a place through exactly when a row stands there that it accepts. -/
theorem mem_apply :
    place ∈ filter.apply rows ↔ ∃ row, rows[place]? = some row ∧ filter.Accepts row := by
  unfold apply
  split
  · next empty =>
    rw [List.mem_range]
    constructor
    · intro inside
      exact ⟨rows[place], List.getElem?_eq_getElem inside, accepts_of_isEmpty empty _⟩
    · rintro ⟨row, found, -⟩
      exact (List.getElem?_eq_some_iff.mp found).1
  · simp only [List.mem_map, List.mem_filter, List.mem_zipIdx_iff_getElem?]
    constructor
    · rintro ⟨⟨row, _⟩, ⟨found, passes⟩, rfl⟩
      exact ⟨row, found, passes⟩
    · rintro ⟨row, found, passes⟩
      exact ⟨(row, place), ⟨found, passes⟩, rfl⟩

/-- The places let through are in ascending order. -/
theorem apply_increasing (filter : Filter) (rows : List Row) :
    (filter.apply rows).Pairwise (· < ·) := by
  unfold apply
  split
  · exact List.pairwise_lt_range
  · have places : (rows.zipIdx.map Prod.snd).Pairwise (· < ·) := by
      rw [List.zipIdx_map_snd]
      exact List.pairwise_lt_range' 1
    exact places.sublist (List.filter_sublist.map Prod.snd)

/-- Only places of rows are let through. -/
theorem lt_length_of_mem_apply (member : place ∈ filter.apply rows) : place < rows.length := by
  obtain ⟨row, found, -⟩ := mem_apply.mp member
  exact (List.getElem?_eq_some_iff.mp found).1

/-! ### Patterns -/

/-- The pattern of a filter, if there is one, is of a length that is allowed and compiles to the
matcher of the filter. -/
def Compiled (compile : String → Option Matcher) (filter : Filter) : Prop :=
  ∀ matcher, filter.matcher = some matcher →
    matcher.pattern.isEmpty = false ∧ matcher.pattern.utf8ByteSize ≤ maxPatternBytes ∧
      compile matcher.pattern = some matcher

variable {compile : String → Option Matcher} {changed : Filter} {pattern : String}

/-- Setting a pattern gives a compiled filter, if the compiler keeps the text of a pattern. -/
theorem compiled_of_setPattern
    (faithful : ∀ pattern matcher, compile pattern = some matcher → matcher.pattern = pattern)
    (set : filter.setPattern compile pattern = .ok changed) : changed.Compiled compile := by
  intro matcher found
  unfold setPattern at set
  split at set
  · obtain rfl := Except.ok.inj set
    cases found
  · next present =>
    split at set
    · cases set
    · next short =>
      split at set
      · cases set
      · next compiled compiles =>
        obtain rfl := Except.ok.inj set
        obtain rfl : compiled = matcher := Option.some.inj found
        rw [faithful pattern compiled compiles]
        exact ⟨Bool.eq_false_iff.mpr present, Nat.le_of_not_gt short, compiles⟩

/-- A pattern that was compiled can be set again, which gives the same matcher. -/
theorem setPattern_pattern (compiled : changed.Compiled compile) :
    filter.setPattern compile changed.pattern = .ok { filter with matcher := changed.matcher } := by
  unfold setPattern pattern
  cases found : changed.matcher with
  | none => simp
  | some matcher =>
    obtain ⟨present, short, compiles⟩ := compiled matcher found
    have fits : ¬matcher.pattern.utf8ByteSize > maxPatternBytes := Nat.not_lt_of_le short
    simp [present, fits, compiles]

end Filter

namespace SavedFilter

variable {compile : String → Option Matcher} {saved : SavedFilter} {filter : Filter}

/-- A restored filter has a pattern that compiles, or none. -/
theorem compiled_restore
    (faithful : ∀ pattern matcher, compile pattern = some matcher → matcher.pattern = pattern) :
    (saved.restore compile).Compiled compile := by
  unfold restore
  dsimp only
  split
  · next filter set => exact Filter.compiled_of_setPattern faithful set
  · intro matcher found
    cases found

/-- What is restored of a saved filter: everything but the bounds in time. -/
theorem restore_ofFilter (compiled : filter.Compiled compile) :
    (ofFilter filter).restore compile =
      { filter with
        sources := sortedDistinct filter.sources
        earliest := Option.none
        latest := Option.none } := by
  unfold restore ofFilter
  dsimp only
  rw [Filter.setPattern_pattern compiled]
  rfl

/-- What is saved of a filter whose pattern compiles is saved of the restored filter again. -/
theorem ofFilter_restore (compiled : filter.Compiled compile) :
    ofFilter ((ofFilter filter).restore compile) = ofFilter filter := by
  rw [restore_ofFilter compiled, ofFilter, ofFilter,
    sortedDistinct_of_ascending (sortedDistinct_ascending filter.sources)]
  rfl

end SavedFilter

end QueryTail
