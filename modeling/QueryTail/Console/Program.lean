import QueryTail.CommandLine.Help
import QueryTail.Console.Run
import QueryTail.Directories
import QueryTail.Settings.Load

/-!
# The program

Everything from the words of the command line to the exit code, for a run of one round. Settings and
preferences are looked for in the directories of the user.
-/

namespace QueryTail.Program

open CommandLine (programName programVersion)

/-- What the program is told about the user's system. -/
structure Environment where
  user : UserEnvironment
  /-- What is to be logged. -/
  logging : Option String

/-- What is left behind by the program. -/
structure Result where
  exitCode : UInt8
  /-- What was printed. -/
  printed : List Char
  /-- The texts that were written to the error stream, besides the log. -/
  errors : List String
  files : FileTree

/-- The text about a failed run. -/
def failureText (fault : Fault) : String :=
  s!"Error: {fault.message}"

/-- The settings file of a run. -/
def settingsPath (directories : Directories) (arguments : Arguments) : String :=
  arguments.config.getD (FilePath.join directories.config Settings.fileName)

/-- The file of saved preferences. -/
def preferencesPath (directories : Directories) : String :=
  FilePath.join directories.data Preferences.fileName

/-- The events before a run. -/
def startEvents (warnings : List String) : List LogEvent :=
  [ ⟨.debug, .logging, ["app", "version", "log_file"], "Logging initialised"⟩,
    ⟨.info, .program, ["version", "debug"], s!"{programName} {programVersion} starting"⟩ ] ++
    warnings.map fun warning => ⟨.warn, .program, [], warning⟩

/-- The event of a failed run. -/
def failureEvent (fault : Fault) : LogEvent :=
  ⟨.error, .program, ["error"], s!"{programName} failed: {fault.message}"⟩

/-- The program with arguments. -/
def runWith (compile : String → Option Matcher) (environment : Environment)
    (arguments : Arguments) (files : FileTree) : Result :=
  let directories := Directories.resolve environment.user
  let (settings, warnings) := Settings.load files (settingsPath directories arguments)
  let filter := LogFilter.choose environment.logging arguments.debug settings.logLevel
  let (files, log, refused) := Log.openOn files filter settings.logFile
  let around := Surroundings.note ⟨files, log, []⟩ (startEvents warnings)
  let path := preferencesPath directories
  let found := Preferences.lookUp around.files path
  let around := around.note (found.events path)
  match Console.run compile settings found.usable? arguments path around with
  | (_, around, .ok _) => ⟨0, around.printed, refused.toList, around.files⟩
  | (_, around, .error fault) =>
    let around := around.note [failureEvent fault]
    ⟨1, around.printed, refused.toList ++ [failureText fault], around.files⟩

/-- The program with the words of a command line. -/
def run (compile : String → Option Matcher) (environment : Environment) (words : List String)
    (files : FileTree) : Result :=
  match CommandLine.parse words with
  | .error refusal =>
    ⟨refusal.exitCode, Text.ofLines refusal.output, refusal.complaint?.toList, files⟩
  | .ok arguments => runWith compile environment arguments files

end QueryTail.Program
