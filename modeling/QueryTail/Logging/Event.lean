/-!
# Log events

What the program tells about its own work. An event has a level, comes from some part of the
program, and may carry named values beside its message; by all three it can be asked for.
-/

namespace QueryTail

/-- How important an event is, most important first. -/
inductive LogLevel where
  | error
  | warn
  | info
  | debug
  | trace
  deriving DecidableEq, Repr

namespace LogLevel

/-- The place of a level, from the most important to the most detailed. -/
def rank : LogLevel → Nat
  | .error => 1
  | .warn => 2
  | .info => 3
  | .debug => 4
  | .trace => 5

/-- The levels, most important first. -/
def all : List LogLevel := [.error, .warn, .info, .debug, .trace]

/-- The word for a level. -/
def word : LogLevel → String
  | .error => "error"
  | .warn => "warn"
  | .info => "info"
  | .debug => "debug"
  | .trace => "trace"

/-- The word for a level as it stands in a log. -/
def label (level : LogLevel) : String :=
  String.ofList (level.word.toList.map Char.toUpper)

end LogLevel

/-- The parts of the program that tell about their work. -/
inductive LogOrigin where
  | program
  | logging
  | preferences
  | lines
  | source
  | polling
  | window
  | view
  deriving DecidableEq, Repr

/-- The name under which a log specification knows a part of the program. -/
def LogOrigin.name : LogOrigin → String
  | .program => "companion"
  | .logging => "companion::util::logging"
  | .preferences => "companion::app::session"
  | .lines => "companion::core::parser"
  | .source => "companion::app::source"
  | .polling => "companion::app::poller"
  | .window => "companion::core::tail_buffer"
  | .view => "companion::app::state"

/-- An event that may be logged. -/
structure LogEvent where
  level : LogLevel
  origin : LogOrigin
  /-- The names of the values that the event carries beside its message. -/
  values : List String
  message : String

namespace LogEvent

/-- The event carries something under a name; the message counts. -/
def carries (event : LogEvent) (name : String) : Bool :=
  name == "message" || event.values.contains name

/-- The line of an event in a log. -/
def line (event : LogEvent) : String :=
  s!"{event.level.label} {event.origin.name}: {event.message}"

end LogEvent

/-- How many characters of a line are shown in a log. -/
def previewLength : Nat := 200

/-- The start of a text, as it is shown in a log. -/
def preview (text : String) : String :=
  String.ofList (text.toList.take previewLength)

end QueryTail
