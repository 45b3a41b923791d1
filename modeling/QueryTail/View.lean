import QueryTail.Filter
import QueryTail.Limits
import QueryTail.Marks
import QueryTail.Window.Basic

/-!
# The tail view

What the user sees of a live tail: the window and everything derived from it, a status line, and a
bounded history of warnings. The view is fed by messages of a polling run. Every message carries
the generation of its run, and a view that was reset for another generation ignores it.

Times are milliseconds on any clock, given by the caller.
-/

namespace QueryTail

/-- What a polling run tells the view. -/
inductive Progress where
  | started (generation nodeCount : Nat)
  | page (generation : Nat) (node : String) (entries : List Entry)
  | fetchFailed (generation : Nat) (node message : String)
  | stopped (generation : Nat)

/-- The generation of the run that sent a message. -/
def Progress.generation : Progress → Nat
  | .started generation _ => generation
  | .page generation _ _ => generation
  | .fetchFailed generation _ _ => generation
  | .stopped generation => generation

/-- The state of a tail view. -/
structure View where
  /-- The capacity of the window, now or when it is next created. -/
  capacity : Nat
  /-- What a change of capacity does to held rows. -/
  policy : CapacityPolicy
  /-- The window; there is one while the view tails. -/
  window : Option Window
  /-- Which rows arrived recently. -/
  marks : Marks
  /-- Which rows are shown. -/
  filter : Filter
  /-- The places of the shown rows in the window, as of the last time the filter was applied. -/
  shown : List Nat
  /-- The generation whose messages are accepted. -/
  generation : Option Nat
  status : String
  /-- Warnings of failed fetches, oldest first. -/
  warnings : List String

namespace View

/-- The greatest number of warnings that are kept. -/
def maxWarnings : Nat := 1000

/-- A view that does not tail yet. The capacity is brought into its bounds. -/
def new (capacity : Nat) (policy : CapacityPolicy) (markLifetime : Nat) : View :=
  { capacity := Limits.capacity.clamp capacity
    policy
    window := none
    marks := .empty markLifetime
    filter := .none
    shown := []
    generation := none
    status := "Ready. Start the live tail to begin."
    warnings := [] }

/-- The view tails. -/
def isTailing (view : View) : Bool :=
  view.window.isSome

/-- The rows of the window, newest first; none while the view does not tail. -/
def rows (view : View) : List Row :=
  match view.window with
  | some window => window.rows
  | none => []

/-- The rows that are shown, newest first. -/
def visibleRows (view : View) : List Row :=
  let rows := view.rows.toArray
  view.shown.filterMap fun place => rows[place]?

/-- Begin to tail with an empty window, accepting the messages of a generation. -/
def enter (view : View) (generation : Nat) : View :=
  { view with
    window := some (.empty view.capacity)
    generation := some generation
    marks := view.marks.clear
    shown := []
    status := "Live tail active." }

/-- Stop to tail and drop the window. -/
def exit (view : View) : View :=
  { view with
    window := none
    generation := none
    marks := view.marks.clear
    shown := []
    status := "Live tail stopped." }

/-- Forget the warnings and begin to tail anew. -/
def reset (view : View) (generation : Nat) : View :=
  { view with warnings := [] }.enter generation

/-- Apply the filter to the window as it is now. -/
def applyFilter (view : View) : View :=
  { view with shown := view.filter.apply view.rows }

/-- Remove the marks of rows that the window no longer holds. -/
def pruneMarks (view : View) : View :=
  { view with marks := view.marks.retain (Window.keySet view.rows).contains }

/-- The fault of a capacity that is out of its bounds. -/
def capacityFault (capacity : Nat) : SettingsFault :=
  .outOfRange "capacity" (toString capacity) Limits.capacity.text

/-- Change the capacity. While the view tails, the policy decides what happens to held rows. -/
def setCapacity (view : View) (capacity : Nat) : Except SettingsFault View :=
  if Limits.capacity.holds capacity then
    let view := { view with capacity }
    match view.window with
    | none => .ok view
    | some window =>
      let window := (window.setCapacity capacity view.policy).1
      .ok { view with window := some window }.pruneMarks.applyFilter
  else
    .error (capacityFault capacity)

/-- Add a warning; the oldest makes room when there are too many. -/
def warn (view : View) (warning : String) : View :=
  let kept := if maxWarnings ≤ view.warnings.length then view.warnings.tail else view.warnings
  { view with warnings := kept ++ [warning] }

/-- The warning about a failed fetch. -/
def warningText (node message : String) : String :=
  s!"Tail warning from {node}: {message}"

/-- Merge a page into the window of a view. New rows are marked, and the filter is applied anew
unless nothing was new. -/
def acceptPage (view : View) (node : String) (entries : List Entry) (now : Nat) :
    View × Option MergeResult :=
  match view.window with
  | none => (view, none)
  | some window =>
    let (window, result) := window.merge entries
    let view := { view with window := some window }
    if result.isNoop then (view, some result)
    else
      let view := { view with marks := view.marks.mark result.newKeys now }
      let view := if 0 < result.evicted then view.pruneMarks else view
      let view := view.applyFilter
      let status :=
        s!"{result.newCount} new from {node}; showing {view.shown.length} of {result.retained}."
      ({ view with status }, some result)

/-- Handle a message at a time. Gives the result of the merge if a page was merged; messages of
other generations change nothing. -/
def handle (view : View) (message : Progress) (now : Nat) : View × Option MergeResult :=
  if view.generation = some message.generation then
    match message with
    | .started _ nodeCount =>
      ({ view with status := s!"Live tail active, polling {nodeCount} node(s)." }, none)
    | .page _ node entries => view.acceptPage node entries now
    | .fetchFailed _ node message =>
      let warning := warningText node message
      ({ view with status := warning }.warn warning, none)
    | .stopped _ => ({ view with status := "Live tail stopped." }, none)
  else
    (view, none)

/-- The row of a key is to be shown as new. -/
def isRecent (view : View) (key : Key) (now : Nat) : Bool :=
  view.marks.isMarked key now

/-- Remove the marks that have run out; also tells how many. -/
def expireMarks (view : View) (now : Nat) : View × Nat :=
  let (marks, count) := view.marks.expire now
  ({ view with marks }, count)

/-- The lines to print after a merge: the shown rows that it brought, oldest first. -/
def newLines (view : View) (result : MergeResult) : List String :=
  let fresh := Std.HashSet.ofList result.newKeys
  ((view.visibleRows.filter fun row => fresh.contains row.key).map Row.line).reverse

/-! ### Runs -/

/-- One operation on a view. -/
inductive Operation where
  | enter (generation : Nat)
  | exit
  | reset (generation : Nat)
  | setCapacity (capacity : Nat)
  | setPolicy (policy : CapacityPolicy)
  | setFilter (filter : Filter)
  | applyFilter
  | expireMarks (now : Nat)
  | handle (message : Progress) (now : Nat)

/-- The view after one operation; a refused capacity changes nothing. -/
def apply (view : View) : Operation → View
  | .enter generation => view.enter generation
  | .exit => view.exit
  | .reset generation => view.reset generation
  | .setCapacity capacity =>
    match view.setCapacity capacity with
    | .ok view => view
    | .error _ => view
  | .setPolicy policy => { view with policy }
  | .setFilter filter => { view with filter }
  | .applyFilter => view.applyFilter
  | .expireMarks now => (view.expireMarks now).1
  | .handle message now => (view.handle message now).1

/-- The view after a run of operations. -/
def run (view : View) (operations : List Operation) : View :=
  operations.foldl apply view

end View

end QueryTail
