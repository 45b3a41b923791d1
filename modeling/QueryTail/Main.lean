import QueryTail.Console.Program

/-!
# The program on the user's system

Input and output. The files, the clock, the streams and the workers that read logs are those of the
system; what is done with them is decided by the modules below this one. A fetch is made by a thread
of its own, so that a log that cannot be read in time does not hold up the others.
-/

namespace QueryTail.Program

/-! ### Files -/

/-- The error code of a path that leads to a directory, as the system gives it and negated. -/
def directoryCodes : List UInt32 := [21, 4294967275]

/-- The cause of a failed file operation. -/
def causeOf : IO.Error → FileCause
  | .noFileOrDirectory _ _ _ => .notFound
  | .alreadyExists _ _ _ => .alreadyExists
  | .inappropriateType _ code _ =>
    if directoryCodes.contains code then .isADirectory else .notADirectory
  | .resourceBusy _ _ => .busy
  | error => .other (toString error)

/-- The result of a file operation. -/
def attempt {α : Type} (operation : IO α) : BaseIO (Except FileCause α) := do
  match ← operation.toBaseIO with
  | .ok value => return .ok value
  | .error error => return .error (causeOf error)

/-- The content of a file. -/
def readBytes (path : String) : BaseIO (Except FileCause (List UInt8)) := do
  return (← attempt (IO.FS.readBinFile path)).map ByteArray.toList

/-- What can be done with the files of the system. -/
def files : FileActions IO where
  createDirectories path := attempt (IO.FS.createDirAll path)
  write path content := attempt (IO.FS.writeBinFile path ⟨content.toArray⟩)
  rename source target := attempt (IO.FS.rename source target)
  remove path := attempt (IO.FS.removeFile path)

/-- The settings of a file, and the warnings about it. -/
def loadSettings (path : String) : BaseIO (Settings × List String) := do
  match ← readBytes path with
  | .error .notFound => return (Settings.standard, [])
  | .error .notADirectory => return (Settings.standard, [])
  | content => return Settings.ofContent path content

/-- Look for preferences in a file. -/
def lookUpPreferences (path : String) : BaseIO Preferences.Found := do
  match ← readBytes path with
  | .error cause => return .unreadable cause
  | .ok content => return Preferences.ofContent content

/-! ### The log -/

/-- A log, and the stream that takes its lines. -/
structure LogStream where
  log : Log
  stream : IO.FS.Stream

/-- Open a log. A file that cannot be opened is given up for the error stream. -/
def openLog (filter : LogFilter) (path : Option String) : IO LogStream := do
  let errors ← IO.getStderr
  match path with
  | none => return ⟨⟨filter, none⟩, errors⟩
  | some path =>
    match ← attempt (IO.FS.Handle.mk path .append) with
    | .ok handle => return ⟨⟨filter, some path⟩, .ofHandle handle⟩
    | .error cause =>
      errors.putStrLn (Log.refusalText path cause)
      return ⟨⟨filter, none⟩, errors⟩

/-- Write a text. -/
def put (stream : IO.FS.Stream) (text : List Char) : IO Unit := do
  stream.putStr (String.ofList text)
  stream.flush

/-- Log events. -/
def LogStream.note (log : LogStream) (events : List LogEvent) : IO Unit :=
  put log.stream (Text.ofLines (log.log.linesOf events))

/-- What a run can do with the system. -/
def LogStream.actions (log : LogStream) : Actions IO where
  toFileActions := files
  note events := log.note events
  print text := do put (← IO.getStdout) text

/-! ### Polling -/

/-- A thread that reads the log of a node. -/
structure WorkerThread where
  ticket : Nat
  node : String
  task : Task (Option (Except SourceFault Page))

/-- A live tail under way; times are in milliseconds. -/
structure LiveTail where
  console : Console
  log : LogStream
  threads : List WorkerThread
  /-- When the node that is waited for was asked. -/
  askedAt : Nat
  /-- When the next round begins. -/
  resumeAt : Nat

namespace LiveTail

/-- The pause between two looks at the messages. -/
def refresh : Nat := 200

/-- The pause between two looks at a thread. -/
def shortPause : UInt32 := 5

/-- How many messages are handled at a look. -/
def messageBudget : Nat := 200

/-- The polling run. -/
def run? (tail : LiveTail) : Option Polling.Run :=
  tail.console.polling.current.bind tail.console.polling.run?

/-- Let an event happen; an event that cannot happen changes nothing. -/
def happen (tail : LiveTail) (event : Polling.Event) : LiveTail :=
  match tail.console.polling.step event with
  | some outcome => { tail with console := { tail.console with polling := outcome.system } }
  | none => tail

/-- Read the page of a node; nothing if the thread ends before it has a result. -/
def readPage (console : Console) (node : String) : BaseIO (Option (Except SourceFault Page)) := do
  match console.source.path? node with
  | none => return some (.error (.unknownNode node))
  | some path =>
    let tail := tailOfRead console.source.profile console.source.readBound (← readBytes path)
    return tail.map (LogSource.pageOf path node console.settings.pageSize)

/-- The threads that are done let go of their nodes and answer. -/
def collect (tail : LiveTail) : IO LiveTail := do
  let mut now := { tail with threads := [] }
  for thread in tail.threads do
    if ← IO.hasFinished thread.task then
      let fetched ← IO.wait thread.task
      if let some fetched := fetched then
        tail.log.note (Console.fetchEvents thread.node fetched)
      now := now.happen (.release thread.ticket)
      now := now.happen (.answer thread.ticket (fetched.map fun page => page.map Page.entries))
    else
      now := { now with threads := now.threads ++ [thread] }
  return now

/-- Let the run do something, and do what it asks for: begin a fetch, or pause after a round. -/
def proceed (tail : LiveTail) (event : Polling.Event) (time : Nat) : IO LiveTail := do
  let tail := tail.happen event
  match tail.run?.map Polling.Run.phase with
  | some (.fetching node ticket _) =>
    let task ← BaseIO.asTask (readPage tail.console node) .dedicated
    return { tail with threads := tail.threads ++ [⟨ticket, node, task⟩], askedAt := time }
  | some (.asking []) =>
    return { tail with resumeAt := time + tail.console.settings.interval }
  | _ => return tail

/-- Whether a fetch has been answered. -/
def isAnswered (tail : LiveTail) (ticket : Nat) : Bool :=
  tail.console.polling.answers.any fun answer => answer.1 == ticket

/-- What the run can do at a time, if it does not have to wait. -/
def nextEvent? (tail : LiveTail) (time : Nat) : Option Polling.Event := do
  let run ← tail.run?
  match run.phase with
  | .fetching _ ticket _ =>
    if tail.isAnswered ticket then some (.receive run.generation)
    else if tail.askedAt + run.timeout ≤ time then some (.expire run.generation)
    else none
  | .asking [] => if tail.resumeAt ≤ time then some (.advance run.generation) else none
  | .ended => none
  | _ => some (.advance run.generation)

/-- The run waits for a thread. -/
def isFetching (tail : LiveTail) : Bool :=
  match tail.run?.map Polling.Run.phase with
  | some (.fetching _ _ _) => true
  | _ => false

/-- Poll until the round is over or the time is up. -/
partial def poll (tail : LiveTail) (limit : Nat) : IO LiveTail := do
  let tail ← tail.collect
  let time ← IO.monoMsNow
  match tail.nextEvent? time with
  | some event => (← tail.proceed event time).poll limit
  | none =>
    if tail.isFetching ∧ time < limit then
      IO.sleep shortPause
      tail.poll limit
    else
      return tail

/-- Show the messages that are there. -/
def showMessages (tail : LiveTail) (time : Nat) : IO LiveTail := do
  match tail.console.polling.step (.take messageBudget) with
  | none => return tail
  | some outcome =>
    let console := { tail.console with polling := outcome.system }
    let console ← console.hearAll tail.log.actions time outcome.taken
    return { tail with console := { console with view := (console.view.expireMarks time).1 } }

/-- Poll and show messages until the deadline. -/
partial def watch (tail : LiveTail) (deadline : Option Nat) : IO LiveTail := do
  let tail ← tail.poll ((← IO.monoMsNow) + refresh)
  let time ← IO.monoMsNow
  let tail ← tail.showMessages time
  if deadline.any fun deadline => deadline ≤ time then
    return tail
  else
    IO.sleep refresh.toUInt32
    tail.watch deadline

end LiveTail

/-! ### A run -/

/-- The run of a console that was started. -/
def proceed (console : Console) (arguments : Arguments) (path : String) (log : LogStream) :
    IO (Except Fault Console.Ending) := do
  log.note console.startEvents
  let begun ← IO.monoMsNow
  let deadline := arguments.duration.map fun seconds => begun + 1000 * seconds.toNat
  let tail ← LiveTail.watch ⟨console, log, [], begun, begun⟩ deadline
  (tail.happen .stop).console.finish log.actions arguments path

/-- A run with the settings of a settings file and with preferences saved earlier. -/
def runConsole (settings : Settings) (saved : Option Preferences) (arguments : Arguments)
    (path : String) (log : LogStream) : IO (Except Fault Console.Ending) := do
  match settings.adjust saved arguments with
  | (_, .error fault) => return .error (.settings fault)
  | (settings, .ok ()) =>
    log.note (Console.choiceEvents Matcher.compile? settings saved arguments)
    match Console.start Matcher.compile? settings saved arguments with
    | .error fault => return .error fault
    | .ok console => proceed console arguments path log

/-- What the environment tells. -/
def readEnvironment : BaseIO Environment := do
  return {
    user := {
      home := ← IO.getEnv "HOME"
      accountHome := none
      configHome := ← IO.getEnv "XDG_CONFIG_HOME"
      dataHome := ← IO.getEnv "XDG_DATA_HOME" }
    logging := ← IO.getEnv "RUST_LOG" }

/-- The program with arguments. Gives the exit code. -/
def runOnSystem (environment : Environment) (arguments : Arguments) : IO UInt8 := do
  let directories := Directories.resolve environment.user
  let (settings, warnings) ← loadSettings (settingsPath directories arguments)
  let filter := LogFilter.choose environment.logging arguments.debug settings.logLevel
  let log ← openLog filter settings.logFile
  log.note (startEvents warnings)
  let path := preferencesPath directories
  let found ← lookUpPreferences path
  log.note (found.events path)
  match ← runConsole settings found.usable? arguments path log with
  | .ok _ => return 0
  | .error fault =>
    log.note [failureEvent fault]
    IO.eprintln (failureText fault)
    return 1

end QueryTail.Program

open QueryTail in
/-- The program with the words of its command line. -/
def main (words : List String) : IO UInt32 := do
  match CommandLine.parse words with
  | .error refusal =>
    IO.print (String.ofList (Text.ofLines refusal.output))
    if let some complaint := refusal.complaint? then
      IO.eprintln complaint
    return refusal.exitCode.toUInt32
  | .ok arguments =>
    return (← Program.runOnSystem (← Program.readEnvironment) arguments).toUInt32
