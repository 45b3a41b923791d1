import QueryTail.CommandLine

/-!
# Help on the command line

The texts for a user who asks for help or for the version, or whose command line is refused.
-/

namespace QueryTail.CommandLine

/-- The name of the program. -/
def programName : String := "Companion"

/-- The version of the program. -/
def programVersion : String := "0.1.0"

/-- A line of help on a parameter or switch: how it is written, and what it does. -/
structure HelpItem where
  usage : String
  description : String

/-- The help on every parameter and switch. -/
def helpItems : List HelpItem :=
  [ ⟨"-n, --node <ID=PATH>",
      "Node to tail, as ID=PATH to its JSON-lines query log. Repeatable"⟩,
    ⟨"-c, --config <CONFIG>", "Config file to use instead of the platform default"⟩,
    ⟨"    --capacity <CAPACITY>", "Tail window capacity"⟩,
    ⟨"    --page-size <PAGE_SIZE>", "Entries requested per node per poll"⟩,
    ⟨"    --interval-ms <INTERVAL_MS>", "Poll interval in milliseconds"⟩,
    ⟨"    --retain-on-resize",
      "Keep the newest rows when the capacity changes instead of clearing"⟩,
    ⟨"-s, --subject <SUBJECT>", "Only show entries whose subject contains this text"⟩,
    ⟨"-r, --regex <REGEX>", "Only show entries whose subject matches this regex"⟩,
    ⟨"-e, --export <EXPORT>", "Write the final window to this file (.csv or .json) on exit"⟩,
    ⟨"    --duration-secs <DURATION_SECS>",
      "Stop after this many seconds (runs until interrupted if omitted)"⟩,
    ⟨"-d, --debug", "Enable debug logging (equivalent to RUST_LOG=debug)"⟩,
    ⟨"-h, --help", "Print help"⟩,
    ⟨"-V, --version", "Print version"⟩ ]

/-- The lines of the help on one item. -/
def HelpItem.lines (item : HelpItem) : List String :=
  ["  " ++ item.usage, "          " ++ item.description, ""]

/-- The lines of the help. -/
def helpLines : List String :=
  [ s!"{programName} - live tail of DNS node query logs.", "",
    "Polls each node's most recent query-log page and keeps a bounded, newest-first window of " ++
      "the merged entries.", "",
    "Usage: companion [OPTIONS]", "",
    "Options:" ] ++ (helpItems.flatMap HelpItem.lines).dropLast

/-- The line about the version. -/
def versionLine : String :=
  s!"{programName} {programVersion}"

namespace Refusal

/-- What is printed when no run begins. -/
def output : Refusal → List String
  | .help => helpLines
  | .version => [versionLine]
  | _ => []

/-- What is written to the error stream when no run begins. -/
def complaint? : Refusal → Option String
  | .help => none
  | .version => none
  | .unknown => some "error: unexpected argument found"
  | .missingValue => some "error: a value is required for an argument but none was supplied"
  | .needlessValue => some "error: unexpected value for an argument that takes none"
  | .repeated => some "error: an argument cannot be used multiple times"
  | .malformedValue => some "error: invalid value for an argument"

/-- The exit code when no run begins. To ask for help or for the version is no mistake. -/
def exitCode : Refusal → UInt8
  | .help => 0
  | .version => 0
  | _ => 2

end Refusal

end QueryTail.CommandLine
