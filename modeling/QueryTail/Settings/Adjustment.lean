import QueryTail.CommandLine
import QueryTail.Preferences
import QueryTail.Settings.Basic

/-!
# Adjusting settings

Saved preferences take precedence over what a settings file says, and the command line takes
precedence over both. A saved number that is out of its range is passed over; a number on the
command line that is out of its range ends the adjustment, and what was adjusted before stays.
-/

namespace QueryTail.Settings

/-! ### Preferences -/

/-- A saved number if it is in its range, and otherwise the number that holds so far. -/
def preferNumber (limits : Limits) (saved : UInt64) (held : Nat) : Nat :=
  if limits.holds saved.toNat then saved.toNat else held

/-- The settings with saved preferences. -/
def withPreferences (settings : Settings) : Option Preferences → Settings
  | none => settings
  | some saved =>
    { settings with
      capacity := preferNumber Limits.capacity saved.capacity settings.capacity
      policy := saved.policy
      pageSize := preferNumber Limits.pageSize saved.pageSize settings.pageSize
      interval := preferNumber Limits.interval saved.interval settings.interval }

/-! ### The command line -/

/-- One change that the command line asks for. -/
inductive Change where
  /-- Add the node of a description. -/
  | node (spec : String)
  | capacity (value : UInt64)
  | pageSize (value : UInt64)
  | interval (value : UInt64)
  | retain
  deriving DecidableEq, Repr

/-- A number of the command line if it is in its range. -/
def checkedNumber (field : String) (limits : Limits) (value : UInt64) : Except SettingsFault Nat :=
  if limits.holds value.toNat then .ok value.toNat
  else .error (.outOfRange field (toString value.toNat) limits.text)

/-- The settings with one more node. -/
def addNode (settings : Settings) (node : Node) : Except SettingsFault Settings :=
  (node.addTo settings.nodes).map fun nodes => { settings with nodes }

/-- The settings after one change. -/
def change (settings : Settings) : Change → Except SettingsFault Settings
  | .node spec => (Node.ofSpec spec).bind settings.addNode
  | .capacity value =>
    (checkedNumber "capacity" Limits.capacity value).map fun capacity => { settings with capacity }
  | .pageSize value =>
    (checkedNumber "page-size" Limits.pageSize value).map fun pageSize => { settings with pageSize }
  | .interval value =>
    (checkedNumber "interval-ms" Limits.interval value).map fun interval =>
      { settings with interval }
  | .retain => .ok { settings with policy := .retain }

/-- The settings after changes, up to the first that fails. -/
def changes (settings : Settings) : List Change → Settings × Except SettingsFault Unit
  | [] => (settings, .ok ())
  | first :: rest =>
    match settings.change first with
    | .ok settings => settings.changes rest
    | .error fault => (settings, .error fault)

/-- The changes that the command line asks for, in the order in which they are made. -/
def changesOf (arguments : Arguments) : List Change :=
  arguments.nodes.map .node ++ (arguments.capacity.map .capacity).toList ++
    (arguments.pageSize.map .pageSize).toList ++ (arguments.interval.map .interval).toList ++
    if arguments.retain then [.retain] else []

/-- The settings with what the command line asks for. -/
def withArguments (settings : Settings) (arguments : Arguments) :
    Settings × Except SettingsFault Unit :=
  settings.changes (changesOf arguments)

/-- The settings of a run: what the settings file says, then saved preferences, then the command
line. -/
def adjust (settings : Settings) (saved : Option Preferences) (arguments : Arguments) :
    Settings × Except SettingsFault Unit :=
  (settings.withPreferences saved).withArguments arguments

end QueryTail.Settings
