import Mathlib.Data.List.Infix
import QueryTail.Proofs.Filter

/-!
# Filters criterion by criterion

A filter passes a row when each of its criteria does, and a criterion that is absent passes every
row (`Meets`). Applying a filter therefore gives what is common to applying its criteria one at a
time (`accepts_iff_criteria`). Rows do not influence one another: joined lists give joined places
(`apply_append`), and looking at every row gives the same also where the filter is empty and no row
needs a look (`apply_eq_scan`).
-/

namespace QueryTail.Filter

variable {filter : Filter} {rows more : List Row} {row : Row} {place : Nat}

/-! ### What the criteria ask -/

/-- A text occurs in another when it is an infix of it. -/
theorem occursIn_iff_infix {part text : List Char} :
    occursIn part text = true ↔ part <:+: text := by
  induction text with
  | nil => rw [occursIn, List.isEmpty_iff, List.infix_nil]
  | cons c rest ih =>
    rw [occursIn, Bool.or_eq_true, List.isPrefixOf_iff_prefix, ih, List.infix_cons_iff]

/-- What the criteria of a filter ask of a row. -/
structure Meets (filter : Filter) (row : Row) : Prop where
  source : filter.sources ≠ [] → row.entry.source ∈ filter.sources
  /-- A row without an instant is not after any bound. -/
  earliest : ∀ bound, filter.earliest = some bound →
    ∃ instant, row.resolved = some instant ∧ ¬instant < bound
  /-- A row without an instant is not before any bound either. -/
  latest : ∀ bound, filter.latest = some bound →
    ∃ instant, row.resolved = some instant ∧ ¬bound < instant
  /-- A row without a subject has the empty one. -/
  search : Text.lowercase filter.search.toList <:+: Text.lowercase (subjectOf row).toList
  pattern : ∀ matcher, filter.matcher = some matcher → matcher.accepts (subjectOf row) = true

/-- The sources chosen must have the source of the row, unless none is chosen. -/
theorem passesSource_iff :
    filter.passesSource row = true ↔
      (filter.sources ≠ [] → row.entry.source ∈ filter.sources) := by
  rw [passesSource, Bool.or_eq_true, List.isEmpty_iff, List.contains_iff_mem, or_iff_not_imp_left]

/-- A row passes the earliest instant when it has an instant that is not before it. -/
theorem passesEarliest_iff :
    filter.passesEarliest row = true ↔
      ∀ bound, filter.earliest = some bound →
        ∃ instant, row.resolved = some instant ∧ ¬instant < bound := by
  unfold passesEarliest
  cases filter.earliest <;> cases row.resolved <;> simp

/-- A row passes the latest instant when it has an instant that is not after it. -/
theorem passesLatest_iff :
    filter.passesLatest row = true ↔
      ∀ bound, filter.latest = some bound →
        ∃ instant, row.resolved = some instant ∧ ¬bound < instant := by
  unfold passesLatest
  cases filter.latest <;> cases row.resolved <;> simp

/-- A row passes a search when the lower-cased subject has it as an infix. -/
theorem passesSearch_iff {search : List Char} :
    passesSearch search row = true ↔ search <:+: Text.lowercase (subjectOf row).toList := by
  rw [passesSearch, Bool.or_eq_true, List.isEmpty_iff, occursIn_iff_infix, or_iff_right_iff_imp]
  rintro rfl
  exact List.nil_infix

/-- A row passes the pattern, if there is one, when the matcher accepts the subject. -/
theorem passesPattern_iff :
    filter.passesPattern row = true ↔
      ∀ matcher, filter.matcher = some matcher → matcher.accepts (subjectOf row) = true := by
  unfold passesPattern
  cases filter.matcher <;> simp

/-- Accepting a row is meeting all criteria. -/
theorem accepts_iff_meets : filter.Accepts row ↔ filter.Meets row := by
  simp only [Accepts, passes, Bool.and_eq_true, passesSource_iff, passesEarliest_iff,
    passesLatest_iff, passesSearch_iff, passesPattern_iff]
  constructor
  · rintro ⟨⟨⟨⟨source, earliest⟩, latest⟩, search⟩, pattern⟩
    exact ⟨source, earliest, latest, search, pattern⟩
  · rintro ⟨source, earliest, latest, search, pattern⟩
    exact ⟨⟨⟨⟨source, earliest⟩, latest⟩, search⟩, pattern⟩

/-- A row without an instant meets no bound. -/
theorem Meets.resolved_ne_none (meets : filter.Meets row)
    (bounded : filter.earliest.isSome ∨ filter.latest.isSome) : row.resolved ≠ Option.none := by
  rw [Option.ne_none_iff_exists']
  rcases bounded with present | present
  · obtain ⟨bound, found⟩ := Option.isSome_iff_exists.mp present
    obtain ⟨instant, resolved, -⟩ := meets.earliest bound found
    exact ⟨instant, resolved⟩
  · obtain ⟨bound, found⟩ := Option.isSome_iff_exists.mp present
    obtain ⟨instant, resolved, -⟩ := meets.latest bound found
    exact ⟨instant, resolved⟩

/-! ### One criterion at a time -/

/-- For each criterion of a filter the filter that has no other. -/
def criteria (filter : Filter) : List Filter :=
  [ { none with sources := filter.sources },
    { none with earliest := filter.earliest },
    { none with latest := filter.latest },
    { none with search := filter.search },
    { none with matcher := filter.matcher } ]

/-- A filter accepts a row exactly when each of its criteria alone does. -/
theorem accepts_iff_criteria :
    filter.Accepts row ↔ ∀ single ∈ filter.criteria, single.Accepts row := by
  simp [Accepts, passes, criteria, none, passesSource, passesEarliest, passesLatest, passesSearch,
    passesPattern, and_assoc]

/-- A place is given if each criterion gives it. -/
theorem mem_apply_iff_criteria :
    place ∈ filter.apply rows ↔ ∀ single ∈ filter.criteria, place ∈ single.apply rows := by
  constructor
  · intro member single isCriterion
    obtain ⟨row, found, accepts⟩ := mem_apply.mp member
    exact mem_apply.mpr ⟨row, found, accepts_iff_criteria.mp accepts single isCriterion⟩
  · intro all
    obtain ⟨row, found, -⟩ := mem_apply.mp (all _ List.mem_cons_self)
    refine mem_apply.mpr ⟨row, found, accepts_iff_criteria.mpr fun single isCriterion => ?_⟩
    obtain ⟨other, same, accepts⟩ := mem_apply.mp (all single isCriterion)
    rwa [Option.some.inj (found.symm.trans same)]

/-- The filter lets through the places of the rows that meet it. -/
theorem mem_apply_iff_meets :
    place ∈ filter.apply rows ↔ ∃ row, rows[place]? = some row ∧ filter.Meets row := by
  simp only [mem_apply, accepts_iff_meets]

/-! ### One row at a time -/

/-- The places of the rows that pass, with a look at every row. -/
def scan (filter : Filter) (rows : List Row) : List Nat :=
  (rows.zipIdx.filter fun item =>
    filter.passes (Text.lowercase filter.search.toList) item.1).map Prod.snd

/-- A filter without criteria lets every row through. -/
theorem apply_of_isEmpty (empty : filter.isEmpty = true) (rows : List Row) :
    filter.apply rows = List.range rows.length :=
  if_pos empty

/-- An empty filter passes every row, so that no row needs a look. -/
theorem apply_eq_scan (filter : Filter) (rows : List Row) :
    filter.apply rows = filter.scan rows := by
  cases empty : filter.isEmpty with
  | true =>
    have all : (rows.zipIdx.filter fun item =>
        filter.passes (Text.lowercase filter.search.toList) item.1) = rows.zipIdx :=
      List.filter_eq_self.mpr fun item _ => accepts_of_isEmpty empty item.1
    rw [apply_of_isEmpty empty, scan, all, List.zipIdx_map_snd, List.range_eq_range']
  | false => exact if_neg (Bool.eq_false_iff.mp empty)

/-- More rows at the end add their places behind those let through before. -/
theorem apply_append (filter : Filter) (rows more : List Row) :
    filter.apply (rows ++ more) =
      filter.apply rows ++ (filter.apply more).map (rows.length + ·) := by
  simp only [apply_eq_scan, scan]
  rw [List.zipIdx_append, List.filter_append, List.map_append, Nat.zero_add,
    List.zipIdx_eq_map_add (l := more), List.filter_map, List.map_map, List.map_map]
  rfl

/-- Applying a filter gives the places of the rows that all its criteria pass, in ascending order:
what applying each criterion gives in common, where an absent criterion gives all places. It does
not matter that an empty filter looks at no row. A row without an instant never passes if there is a
bound in time. What is given for two lists of rows together is what is given for each. -/
theorem apply_criteria (filter : Filter) (rows more : List Row) :
    (filter.apply rows).Pairwise (· < ·) ∧
      (∀ place, place ∈ filter.apply rows ↔
        ∀ single ∈ filter.criteria, place ∈ single.apply rows) ∧
      (∀ single ∈ filter.criteria, single.isEmpty = true →
        single.apply rows = List.range rows.length) ∧
      (∀ place, place ∈ filter.apply rows ↔
        ∃ row, rows[place]? = some row ∧ filter.Meets row) ∧
      filter.apply rows = filter.scan rows ∧
      (∀ place row, rows[place]? = some row → row.resolved = Option.none →
        filter.earliest.isSome ∨ filter.latest.isSome → place ∉ filter.apply rows) ∧
      filter.apply (rows ++ more) =
        filter.apply rows ++ (filter.apply more).map (rows.length + ·) := by
  refine ⟨filter.apply_increasing rows, fun _ => mem_apply_iff_criteria,
    fun _ _ empty => apply_of_isEmpty empty rows, fun _ => mem_apply_iff_meets,
    filter.apply_eq_scan rows, ?_, filter.apply_append rows more⟩
  intro place row found unresolved bounded member
  obtain ⟨other, same, meets⟩ := mem_apply_iff_meets.mp member
  obtain rfl := Option.some.inj (found.symm.trans same)
  exact meets.resolved_ne_none bounded unresolved

end QueryTail.Filter
