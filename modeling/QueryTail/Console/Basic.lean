import QueryTail.LogSource
import QueryTail.Pattern.Matching
import QueryTail.Polling.System
import QueryTail.Polling.Timing
import QueryTail.Settings.Adjustment

/-!
# The console

The front end of a live tail. It chooses the nodes to poll and the filter from the settings, the
saved preferences and the command line, hands the messages of the polling run to a view, and gives
the lines to print. At the end it tells which preferences to save.
-/

namespace QueryTail

/-- A live tail with its front end. -/
structure Console where
  settings : Settings
  source : LogSource
  /-- The nodes that are polled, in ascending order. -/
  selected : List String
  polling : Polling.System
  view : View

/-- The view that settings ask for. -/
def View.ofSettings (settings : Settings) : View :=
  .new settings.capacity settings.policy (settings.highlight * 1000)

namespace Console

/-! ### Choices -/

/-- Saved preferences that decide which nodes are polled: those that name some, unless nodes were
given on the command line. -/
def savedSelection (saved : Option Preferences) (arguments : Arguments) : List String :=
  match saved with
  | some saved => if arguments.nodes.isEmpty then saved.selected else []
  | none => []

/-- The nodes of a source that are named. -/
def namedNodes (source : LogSource) (names : List String) : List String :=
  source.nodeIds.filter names.contains

/-- The nodes to poll: those of the saved selection, or all nodes if there are none of them. -/
def selectNodes (source : LogSource) (saved : Option Preferences) (arguments : Arguments) :
    List String :=
  match namedNodes source (savedSelection saved arguments) with
  | [] => source.nodeIds
  | chosen => chosen

/-- The saved filter of a run, which counts if the command line asks for no filter. -/
def savedFilter (saved : Option Preferences) (arguments : Arguments) : SavedFilter :=
  match saved with
  | some saved =>
    if arguments.subject.isNone ∧ arguments.pattern.isNone then saved.filter else .none
  | none => .none

/-- The filter to start with. -/
def chooseFilter (compile : String → Option Matcher) (saved : Option Preferences)
    (arguments : Arguments) : Except FilterFault Filter :=
  let filter := (savedFilter saved arguments).restore compile
  let filter := { filter with search := arguments.subject.getD filter.search }
  match arguments.pattern with
  | none => .ok filter
  | some pattern => filter.setPattern compile pattern

/-! ### A run -/

/-- Begin a run with settings that are adjusted already. -/
def start (compile : String → Option Matcher) (settings : Settings) (saved : Option Preferences)
    (arguments : Arguments) : Except Fault Console :=
  if settings.nodes.isEmpty then .error (.settings .noNodes)
  else
    let source := LogSource.ofNodes settings.nodes
    let selected := selectNodes source saved arguments
    match chooseFilter compile saved arguments with
    | .error fault => .error (.filter fault)
    | .ok filter =>
      let polling := Polling.System.idle.startRun selected settings.fetchTimeout
      let view := { View.ofSettings settings with filter }.enter polling.generation
      .ok { settings, source, selected, polling, view }

/-- What a message led to. -/
structure Reaction where
  /-- The lines to print. -/
  lines : List String
  /-- What came of merging a page, if the message brought one. -/
  merge : Option MergeResult

/-- Hand a message to the view. -/
def receive (console : Console) (now : Nat) (message : Progress) : Console × Reaction :=
  match console.view.handle message now with
  | (view, some result) => ({ console with view }, ⟨view.newLines result, some result⟩)
  | (view, none) => ({ console with view }, ⟨[], none⟩)

/-- The preferences to save at the end of a run. -/
def preferences (console : Console) : Preferences :=
  { version := Preferences.currentVersion
    capacity := console.view.capacity.toUInt64
    policy := console.view.policy
    pageSize := console.settings.pageSize.toUInt64
    interval := console.settings.interval.toUInt64
    selected := console.selected
    filter := .ofFilter console.view.filter }

/-! ### Rounds -/

/-- Ask a node for its page. A worker who ends before it has a result cannot be reached any more. -/
def fetch (console : Console) (files : FileTree) (node : String) : Except SourceFault Page :=
  (console.source.fetchPage files node console.settings.pageSize).getD
    (.error (.disconnected node))

/-- The message about a page. -/
def report (console : Console) (node : String) (fetched : Except SourceFault Page) : Progress :=
  match fetched with
  | .ok page => .page console.polling.generation node page.entries
  | .error fault => .fetchFailed console.polling.generation node fault.message

/-- The messages of a run's first round, in which every fetch answers in time. -/
def firstRound (console : Console) (files : FileTree) : List Progress :=
  .started console.polling.generation console.selected.length ::
    console.selected.map fun node => console.report node (console.fetch files node)

end Console

end QueryTail
