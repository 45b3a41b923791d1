import QueryTail.Entry.Basic
import QueryTail.Fault
import QueryTail.Pattern.Parser
import QueryTail.Text.Lowercase

/-!
# Filters

Which rows of a window are shown. A filter has five criteria, each of which may be absent; a row
passes when it meets all that are present. Applying a filter gives the places of the rows that
pass, so that nothing is copied.

`SavedFilter` is the part of a filter that outlives a run: everything but the bounds in time, and
the pattern as text only.
-/

namespace QueryTail

/-- The criteria that rows are held against. -/
structure Filter where
  /-- The sources to show; none named means all. -/
  sources : List String
  /-- The earliest instant to show. -/
  earliest : Option Time.Instant
  /-- The latest instant to show. -/
  latest : Option Time.Instant
  /-- A text to look for in subjects without regard to letter case; empty means no search. -/
  search : String
  /-- A pattern that must occur in the subject. -/
  matcher : Option Matcher

/-- Strings in ascending order, each once. -/
def sortedDistinct (names : List String) : List String :=
  names.foldl insertSorted []
where
  /-- Put a string in its place in ascending order, unless it is there. -/
  insertSorted : List String → String → List String
    | [], name => [name]
    | held :: rest, name =>
      if name < held then name :: held :: rest
      else if name = held then held :: rest
      else held :: insertSorted rest name

namespace Filter

/-- The filter that passes everything. -/
def none : Filter :=
  ⟨[], Option.none, Option.none, "", Option.none⟩

/-- The filter that passes one source. -/
def singleSource (source : String) : Filter :=
  { none with sources := [source] }

/-- No criterion is present. -/
def isEmpty (filter : Filter) : Bool :=
  filter.sources.isEmpty && filter.earliest.isNone && filter.latest.isNone &&
    filter.search.isEmpty && filter.matcher.isNone

/-- The text of the pattern, or the empty text if there is none. -/
def pattern (filter : Filter) : String :=
  (filter.matcher.map Matcher.pattern).getD ""

/-- Set the pattern by its text, with a given compiler. The empty text removes the pattern; a text
that is too long or does not compile is refused. -/
def setPattern (compile : String → Option Matcher) (filter : Filter) (pattern : String) :
    Except FilterFault Filter :=
  if pattern.isEmpty then .ok { filter with matcher := Option.none }
  else if pattern.utf8ByteSize > maxPatternBytes then
    .error (.patternTooLong pattern.utf8ByteSize)
  else match compile pattern with
    | Option.none => .error (.invalidPattern pattern)
    | some matcher => .ok { filter with matcher := some matcher }

/-! ### The five criteria -/

/-- The row's source is one of the sources to show. -/
def passesSource (filter : Filter) (row : Row) : Bool :=
  filter.sources.isEmpty || filter.sources.contains row.entry.source

/-- The row's instant is not before the earliest one. A row without an instant does not pass. -/
def passesEarliest (filter : Filter) (row : Row) : Bool :=
  match filter.earliest, row.resolved with
  | Option.none, _ => true
  | some _, Option.none => false
  | some bound, some instant => !decide (instant < bound)

/-- The row's instant is not after the latest one. A row without an instant does not pass. -/
def passesLatest (filter : Filter) (row : Row) : Bool :=
  match filter.latest, row.resolved with
  | Option.none, _ => true
  | some _, Option.none => false
  | some bound, some instant => !decide (bound < instant)

/-- The subject of a row; an absent one counts as empty. -/
def subjectOf (row : Row) : String :=
  row.entry.subject.getD ""

/-- A text occurs somewhere in another. -/
def occursIn (part : List Char) : List Char → Bool
  | [] => part.isEmpty
  | c :: rest => part.isPrefixOf (c :: rest) || occursIn part rest

/-- The lower-case form of the search occurs in the lower-case form of the row's subject. -/
def passesSearch (lowercaseSearch : List Char) (row : Row) : Bool :=
  lowercaseSearch.isEmpty ||
    occursIn lowercaseSearch (Text.lowercase (subjectOf row).toList)

/-- The pattern occurs in the row's subject. -/
def passesPattern (filter : Filter) (row : Row) : Bool :=
  match filter.matcher with
  | Option.none => true
  | some matcher => matcher.accepts (subjectOf row)

/-- The row meets all criteria. The search is given in its lower-case form. -/
def passes (filter : Filter) (lowercaseSearch : List Char) (row : Row) : Bool :=
  filter.passesSource row && filter.passesEarliest row && filter.passesLatest row &&
    passesSearch lowercaseSearch row && filter.passesPattern row

/-- The places of the rows that pass, in ascending order. -/
def apply (filter : Filter) (rows : List Row) : List Nat :=
  if filter.isEmpty then List.range rows.length
  else
    let lowercaseSearch := Text.lowercase filter.search.toList
    (rows.zipIdx.filter fun item => filter.passes lowercaseSearch item.1).map Prod.snd

end Filter

/-- The part of a filter that is saved between runs. -/
structure SavedFilter where
  sources : List String
  search : String
  pattern : String
  deriving DecidableEq, Repr

namespace SavedFilter

/-- The saved form of the filter that passes everything. -/
def none : SavedFilter := ⟨[], "", ""⟩

/-- The saved form of a filter. -/
def ofFilter (filter : Filter) : SavedFilter :=
  ⟨sortedDistinct filter.sources, filter.search, filter.pattern⟩

/-- The filter of a saved form, with a given compiler. A pattern that no longer compiles is
dropped. -/
def restore (compile : String → Option Matcher) (saved : SavedFilter) : Filter :=
  let plain := { Filter.none with sources := saved.sources, search := saved.search }
  match plain.setPattern compile saved.pattern with
  | .ok filter => filter
  | .error _ => plain

end SavedFilter

end QueryTail
