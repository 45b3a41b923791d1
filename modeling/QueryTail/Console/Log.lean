import QueryTail.Files.Tree
import QueryTail.Logging.Filter
import QueryTail.Preferences

/-!
# The log of a run

Where the events of a run go: to the end of a file that the settings name, or, without such a file,
to the error stream.
-/

namespace QueryTail

/-- The text of lines: a newline is behind each. -/
def Text.ofLines (lines : List String) : List Char :=
  lines.flatMap fun line => line.toList ++ ['\n']

/-- The log of a run. -/
structure Log where
  filter : LogFilter
  /-- The file that takes the events, if there is one. -/
  path : Option String

namespace Log

/-- The lines of the events that a log takes. -/
def linesOf (log : Log) (events : List LogEvent) : List String :=
  (events.filter log.filter.takes).map LogEvent.line

/-- Write events at the end of the log's file. -/
def note (log : Log) (files : FileTree) (events : List LogEvent) : FileTree :=
  match log.path with
  | none => files
  | some path =>
    (files.append path (Text.utf8 (Text.ofLines (log.linesOf events)))).toOption.getD files

/-- The text about a log file that cannot be opened. -/
def refusalText (path : String) (cause : FileCause) : String :=
  s!"Cannot open log file '{path}': {cause.message}. Logging to stderr."

/-- Open a log. A file that cannot be opened is given up, which the text tells. -/
def openOn (files : FileTree) (filter : LogFilter) (path : Option String) :
    FileTree × Log × Option String :=
  match path with
  | none => (files, ⟨filter, none⟩, none)
  | some path =>
    match files.append path [] with
    | .ok files => (files, ⟨filter, some path⟩, none)
    | .error cause => (files, ⟨filter, none⟩, some (refusalText path cause))

end Log

/-! ### Events -/

/-- The event of loading preferences. That there are none is not worth telling. -/
def Preferences.Found.events (path : String) : Preferences.Found → List LogEvent
  | .unreadable .notFound => []
  | .unreadable cause =>
    [⟨.debug, .preferences, ["path", "error"],
      s!"Cannot read session file '{path}': {cause.message}"⟩]
  | .malformed =>
    [⟨.warn, .preferences, ["path", "error"],
      s!"Session file '{path}' is malformed, starting fresh"⟩]
  | .otherVersion version =>
    [⟨.warn, .preferences, ["found", "expected"],
      s!"Session file '{path}' has version {version.toNat}, expected " ++
        s!"{Preferences.currentVersion.toNat}; starting fresh"⟩]
  | .usable _ => [⟨.info, .preferences, ["path"], s!"Session file '{path}' loaded"⟩]

end QueryTail
