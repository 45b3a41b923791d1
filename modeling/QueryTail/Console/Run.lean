import QueryTail.Console.Basic
import QueryTail.Console.Log
import QueryTail.Export.Basic

/-!
# A run of the console

What a run does besides polling: it prints the lines of the messages that it hears, logs events, and
at the end exports the window and saves the preferences. All that is written down once, for
surroundings of any kind; `Actions` is what is asked of them.

`run` is a run on a tree of files that ends after one round of polling, in which every fetch answers
in time. Whatever fails ends the run, except that preferences which cannot be saved are only worth a
warning in the log.
-/

namespace QueryTail

/-- What a run can do with its surroundings. -/
structure Actions (m : Type → Type) extends FileActions m where
  /-- Log events. -/
  note : List LogEvent → m Unit
  /-- Print a text. -/
  print : List Char → m Unit

/-- What a run on a tree of files acts on. -/
structure Surroundings where
  files : FileTree
  log : Log
  /-- What was printed. -/
  printed : List Char

namespace Surroundings

/-- Log events. -/
def note (around : Surroundings) (events : List LogEvent) : Surroundings :=
  { around with files := around.log.note around.files events }

/-- Print a text. -/
def print (around : Surroundings) (text : List Char) : Surroundings :=
  { around with printed := around.printed ++ text }

/-- An action on files, with the rest of the surroundings left alone. -/
def onFiles {α : Type} (action : StateM FileTree α) : StateM Surroundings α := fun around =>
  let (result, files) := action around.files
  (result, { around with files })

/-- What can be done with surroundings that have a tree of files. -/
def actions : Actions (StateM Surroundings) where
  createDirectories path := onFiles (FileTree.actions.createDirectories path)
  write path content := onFiles (FileTree.actions.write path content)
  rename source target := onFiles (FileTree.actions.rename source target)
  remove path := onFiles (FileTree.actions.remove path)
  note events := modify (·.note events)
  print text := modify (·.print text)

end Surroundings

namespace Console

/-! ### Events -/

/-- The events of choosing nodes and a filter. Without nodes there is no choice. -/
def choiceEvents (compile : String → Option Matcher) (settings : Settings)
    (saved : Option Preferences) (arguments : Arguments) : List LogEvent :=
  let source := LogSource.ofNodes settings.nodes
  let names := savedSelection saved arguments
  let selection : List LogEvent :=
    if !names.isEmpty ∧ (namedNodes source names).isEmpty then
      [⟨.debug, .program, [], "Saved node selection matches no configured node; polling all"⟩]
    else []
  let filter : List LogEvent :=
    match Filter.none.setPattern compile (savedFilter saved arguments).pattern with
    | .ok _ => []
    | .error fault =>
      [⟨.warn, .preferences, ["error"],
        s!"Stored filter regex is invalid; ignoring it: {fault.message}"⟩]
  if settings.nodes.isEmpty then [] else selection ++ filter

/-- The events of a run that has begun. -/
def startEvents (console : Console) : List LogEvent :=
  [ ⟨.info, .polling, ["nodes", "generation"],
      s!"Live tail polling started: {console.selected.length} node(s)"⟩,
    ⟨.info, .view, ["generation", "capacity"],
      s!"Entered tail mode: capacity {console.view.capacity}"⟩ ]

/-- The event of passing over a line. -/
def badLineEvent (node : String) : BadLine → LogEvent
  | .tooLong bytes =>
    ⟨.debug, .lines, ["node", "bytes"], s!"Skipping oversized log line of {node}: {bytes} bytes"⟩
  | .malformed text =>
    ⟨.debug, .lines, ["node", "error", "line"],
      s!"Skipping malformed log line of {node}: {preview text}"⟩

/-- The events of a fetch. -/
def fetchEvents (node : String) : Except SourceFault Page → List LogEvent
  | .error fault =>
    [⟨.warn, .polling, ["node", "error"], s!"Tail fetch from {node} failed: {fault.message}"⟩]
  | .ok page =>
    let skipped : List LogEvent :=
      if page.malformed = 0 then []
      else
        [⟨.warn, .source, ["node", "malformed"],
          s!"Skipped {page.malformed} malformed query-log line(s) of {node}"⟩]
    page.bad.map (badLineEvent node) ++ skipped ++
      [⟨.debug, .source, ["node", "entries"],
        s!"Fetched {page.entries.length} recent entries of {node}"⟩]

/-- The events of the first round. -/
def roundEvents (console : Console) (files : FileTree) : List LogEvent :=
  console.selected.flatMap fun node => fetchEvents node (console.fetch files node)

/-- The events of merging a page. A page without new entries is not worth telling. -/
def mergeEvents (result : MergeResult) : List LogEvent :=
  if result.isNoop then []
  else
    [⟨.debug, .window, ["new", "evicted", "retained", "capacity"],
      s!"Tail buffer merged page: {result.newCount} new, {result.evicted} evicted, " ++
        s!"{result.retained} retained"⟩]

/-- The events of the end of polling. -/
def endEvents (console : Console) : List LogEvent :=
  [ ⟨.info, .polling, ["generation"], "Live tail polling stopped"⟩,
    ⟨.info, .program, ["retained", "warnings"],
      s!"Live tail finished: {console.view.rows.length} row(s), " ++
        s!"{console.view.warnings.length} warning(s)"⟩ ]

/-- The event of an export. -/
def exportEvent (count : Nat) (path : String) : LogEvent :=
  ⟨.info, .program, ["path", "count"], s!"Exported {count} row(s) to '{path}'"⟩

/-- The events of saving preferences at the end of a run. -/
def savingEvents (path : String) (outcome : Except Fault Unit) : List LogEvent :=
  let saving : LogEvent := match outcome with
    | .ok () => ⟨.debug, .preferences, ["path"], s!"Session saved to '{path}'"⟩
    | .error fault =>
      ⟨.warn, .program, ["error"], s!"Could not save preferences: {fault.message}"⟩
  [saving, ⟨.info, .view, [], "Exited tail mode"⟩]

/-! ### The parts of a run -/

/-- What a run ends with. -/
structure Ending where
  /-- The preferences that were to be saved. -/
  preferences : Preferences
  /-- What came of saving them. -/
  saving : Except Fault Unit

section

variable {m : Type → Type} [Monad m]

/-- Hear a message: hand it to the view, and print the rows that it brings. -/
def hear (console : Console) (act : Actions m) (now : Nat) (message : Progress) : m Console := do
  let (console, reaction) := console.receive now message
  act.note (reaction.merge.toList.flatMap mergeEvents)
  act.print (Text.ofLines reaction.lines)
  return console

/-- Hear messages, oldest first. -/
def hearAll (console : Console) (act : Actions m) (now : Nat) (messages : List Progress) :
    m Console :=
  messages.foldlM (fun console message => console.hear act now message) console

/-- Export the window if the command line asks for it. -/
def exportWindow (console : Console) (act : Actions m) (arguments : Arguments) :
    m (Except Fault Unit) := do
  match arguments.exportPath with
  | none => return .ok ()
  | some path =>
    match ← Export.toFile act.toFileActions console.view.rows path with
    | .error fault => return .error (.export fault)
    | .ok count =>
      act.note [exportEvent count path]
      return .ok ()

/-- Save the preferences. Gives what came of it, which is logged as well. -/
def savePreferences (console : Console) (act : Actions m) (path : String) :
    m (Except Fault Unit) := do
  let saving ← console.preferences.saveTo act.toFileActions path
  act.note (savingEvents path saving)
  return saving

/-- The end of a run: export the window and save the preferences. -/
def finish (console : Console) (act : Actions m) (arguments : Arguments) (path : String) :
    m (Except Fault Ending) := do
  act.note console.endEvents
  match ← console.exportWindow act arguments with
  | .error fault => return .error fault
  | .ok () => return .ok ⟨console.preferences, ← console.savePreferences act path⟩

end

/-! ### A run on a tree of files -/

/-- Poll every node once, and hear what comes of it. -/
def poll (console : Console) (around : Surroundings) : Console × Surroundings :=
  let around := around.note console.startEvents
  let messages := console.firstRound around.files
  let around := around.note (console.roundEvents around.files)
  console.hearAll Surroundings.actions 0 messages around

/-- The run of a console that was started. -/
def proceed (console : Console) (arguments : Arguments) (path : String) (around : Surroundings) :
    Except Fault Ending × Surroundings :=
  let (console, around) := console.poll around
  console.finish Surroundings.actions arguments path around

/-- A run with the settings of a settings file and with preferences saved earlier, which are saved
again in a file. Gives the adjusted settings as well. -/
def run (compile : String → Option Matcher) (settings : Settings) (saved : Option Preferences)
    (arguments : Arguments) (path : String) (around : Surroundings) :
    Settings × Surroundings × Except Fault Ending :=
  match settings.adjust saved arguments with
  | (settings, .error fault) => (settings, around, .error (.settings fault))
  | (settings, .ok ()) =>
    let around := around.note (choiceEvents compile settings saved arguments)
    match start compile settings saved arguments with
    | .error fault => (settings, around, .error fault)
    | .ok console => (settings, (console.proceed arguments path around).swap)

end Console

end QueryTail
