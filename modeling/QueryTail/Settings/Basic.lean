import QueryTail.Limits
import QueryTail.Logging.Event
import QueryTail.Node
import QueryTail.Settings.Raw
import QueryTail.Text.Lowercase
import QueryTail.Window.Basic

/-!
# Settings

What a run goes by. Settings are made from what a settings file says: every value that cannot be
used is replaced by its default, and a warning tells so. No value is ever changed silently, but for
an empty name of a log file, which counts as absent.
-/

namespace QueryTail

/-- The settings of a run. -/
structure Settings where
  capacity : Nat
  policy : CapacityPolicy
  pageSize : Nat
  /-- The pause between two rounds of polling, in milliseconds. -/
  interval : Nat
  /-- How long a fetch may take, in milliseconds. -/
  fetchTimeout : Nat
  /-- How long a row is shown as new, in seconds. -/
  highlight : Nat
  nodes : List Node
  logLevel : Option String
  logFile : Option String
  deriving DecidableEq, Repr

namespace Settings

/-- The settings when nothing is said. -/
def standard : Settings :=
  { capacity := Limits.capacity.standard
    policy := .reset
    pageSize := Limits.pageSize.standard
    interval := Limits.interval.standard
    fetchTimeout := Limits.fetchTimeout.standard
    highlight := Limits.highlight.standard
    nodes := []
    logLevel := none
    logFile := none }

/-! ### Checking what is written -/

/-- The warning about a number that is out of its range. -/
def rangeWarning (field : String) (limits : Limits) (value : Nat) : String :=
  s!"[tail] {field} = {value} is out of range ({limits.text}). " ++
    s!"Using default ({limits.standard})."

/-- A number in its range, and the warnings about it. -/
def checkNumber (field : String) (limits : Limits) : Option Nat → Nat × List String
  | none => (limits.standard, [])
  | some value =>
    if limits.holds value then (value, []) else (limits.standard, [rangeWarning field limits value])

/-- The warning about a policy that there is not. The word is shown in its lower-case form. -/
def policyWarning (word : String) : String :=
  s!"[tail] capacity_policy = \"{word}\" is not recognised. " ++
    "Expected \"reset\" or \"retain\". Using default (reset)."

/-- A policy, whose word may be written in any letter case, and the warnings about it. -/
def checkPolicy : Option String → CapacityPolicy × List String
  | none => (.reset, [])
  | some word =>
    let word := Text.lowered word
    match CapacityPolicy.ofLabel? word with
    | some policy => (policy, [])
    | none => (.reset, [policyWarning word])

/-- The warning about a level that there is not. -/
def levelWarning (word : String) : String :=
  s!"[logging] level = \"{word}\" is not recognised. " ++
    "Valid values: error, warn, info, debug, trace. Using default (info)."

/-- A level, whose word may be written in any letter case and is kept as it is, and the warnings
about it. -/
def checkLevel : Option String → Option String × List String
  | none => (none, [])
  | some word =>
    if LogLevel.all.any fun level => level.word == Text.lowered word then (some word, [])
    else (none, [levelWarning word])

/-- The nodes kept so far, the names that were met, and the warnings, last first. -/
structure NodeCheck where
  kept : List Node
  met : List String
  warnings : List String

/-- A value without the blanks at its ends; an absent value is empty. -/
def bare (value : Option String) : String :=
  Text.trimmed (value.getD "")

/-- The number-th node is checked: it needs a name and a path, a name that was not met before, and
room. -/
def NodeCheck.step (check : NodeCheck) (item : RawNode × Nat) : NodeCheck :=
  let (node, number) := item
  let id := bare node.id
  let path := bare node.path
  if id.isEmpty || path.isEmpty then
    let warning := s!"[[nodes]] entry {number} needs both id and path. Skipping it."
    { check with warnings := warning :: check.warnings }
  else if check.met.contains id then
    let warning := s!"[[nodes]] id = \"{id}\" is defined more than once. Keeping the first."
    { check with warnings := warning :: check.warnings }
  else
    let check := { check with met := id :: check.met }
    match Node.addTo check.kept ⟨id, path⟩ with
    | .ok kept => { check with kept }
    | .error fault =>
      { check with warnings := s!"[[nodes]] {fault.message}. Skipping it." :: check.warnings }

/-- The nodes that can be used, in order, and the warnings about the others. -/
def checkNodes (nodes : List RawNode) : List Node × List String :=
  let check := (nodes.zipIdx 1).foldl NodeCheck.step ⟨[], [], []⟩
  (check.kept, check.warnings.reverse)

/-- The name of a log file; an empty one counts as absent. -/
def checkFile (file : Option String) : Option String :=
  file.filter fun name => !name.isEmpty

/-- The settings that a settings file asks for, and the warnings about what cannot be used. -/
def ofRaw (raw : RawSettings) : Settings × List String :=
  let tail := raw.tail
  let (capacity, capacityWarnings) := checkNumber "capacity" Limits.capacity tail.capacity
  let (policy, policyWarnings) := checkPolicy tail.policy
  let (pageSize, pageSizeWarnings) := checkNumber "page_size" Limits.pageSize tail.pageSize
  let (interval, intervalWarnings) := checkNumber "poll_interval_ms" Limits.interval tail.interval
  let (fetchTimeout, timeoutWarnings) :=
    checkNumber "fetch_timeout_ms" Limits.fetchTimeout tail.fetchTimeout
  let (highlight, highlightWarnings) := checkNumber "highlight_secs" Limits.highlight tail.highlight
  let (nodes, nodeWarnings) := checkNodes raw.nodes
  let (logLevel, levelWarnings) := checkLevel raw.logging.level
  let settings : Settings :=
    { capacity, policy, pageSize, interval, fetchTimeout, highlight, nodes, logLevel
      logFile := checkFile raw.logging.file }
  (settings, capacityWarnings ++ policyWarnings ++ pageSizeWarnings ++ intervalWarnings ++
    timeoutWarnings ++ highlightWarnings ++ nodeWarnings ++ levelWarnings)

end Settings

end QueryTail
