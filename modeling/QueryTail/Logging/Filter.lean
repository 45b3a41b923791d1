import QueryTail.Logging.Directive

/-!
# Which events a log takes

A log specification holds directives between commas. For every event the most specific directive
that concerns it decides: one with a longer target before one with a shorter target or none, then
one that asks for more fields. The specification is chosen by the environment, else by the debug
flag, else by the settings.
-/

namespace QueryTail

namespace LogDirective

/-- The directive can be settled by looking at an event alone. The program opens no spans, and the
values of fields are not compared, so other directives concern no event. -/
def isSettled (directive : LogDirective) : Bool :=
  directive.span.isNone && directive.fields.all fun field => !field.hasValue

/-- The names of the fields that a directive asks for. -/
def names (directive : LogDirective) : List String :=
  directive.fields.map LogField.name

/-- The directive concerns an event: the event's origin starts with the target, and the event
carries all fields. -/
def concerns (directive : LogDirective) (event : LogEvent) : Bool :=
  directive.isSettled &&
    (directive.target.all fun target => target.toList.isPrefixOf event.origin.name.toList) &&
    directive.names.all event.carries

/-- How much a directive asks of targets: nothing, or a start of some length. -/
def targetRank (directive : LogDirective) : Nat :=
  match directive.target with
  | none => 0
  | some target => target.utf8ByteSize + 1

/-- A directive is less specific than another one that concerns the same event. Where the targets
are equally long and the fields equally many, the names of the fields decide. -/
def isLessSpecific (left right : LogDirective) : Bool :=
  left.targetRank < right.targetRank ||
    (left.targetRank == right.targetRank &&
      (left.fields.length < right.fields.length ||
        (left.fields.length == right.fields.length && left.names < right.names)))

/-- The directive that errors are taken. -/
def errorsOnly : LogDirective := { everything with threshold := some .error }

end LogDirective

/-- What a log takes. -/
structure LogFilter where
  directives : List LogDirective

namespace LogFilter

/-- The pieces of a text between commas; `found` holds the current piece, last character first. -/
def pieces (found : List Char) : List Char → List (List Char)
  | [] => [found.reverse]
  | c :: rest => if c = ',' then found.reverse :: pieces [] rest else pieces (c :: found) rest

/-- The filter of a specification. Pieces that are no directives are passed over; if no directive is
left, errors are taken. -/
def ofSpecification (specification : String) : LogFilter :=
  match (pieces [] specification.toList).filterMap LogDirective.ofText? with
  | [] => ⟨[.errorsOnly]⟩
  | directives => ⟨directives⟩

/-- The directive that decides on an event. Of two that are equally specific the later counts. -/
def deciding? (filter : LogFilter) (event : LogEvent) : Option LogDirective :=
  (filter.directives.filter fun directive => directive.concerns event).foldl
    (fun best directive =>
      match best with
      | none => some directive
      | some held => if directive.isLessSpecific held then some held else some directive)
    none

/-- The log takes an event. -/
def takes (filter : LogFilter) (event : LogEvent) : Bool :=
  (filter.deciding? event).any fun directive => directive.threshold.takes event.level

/-- The filter of a run: what the environment specifies, else `debug` if the debug flag is set, else
what the settings specify, else `info`. -/
def choose (environment : Option String) (debug : Bool) (level : Option String) : LogFilter :=
  .ofSpecification <|
    match environment with
    | some specification => specification
    | none => if debug then "debug" else level.getD "info"

end LogFilter

end QueryTail
