import QueryTail.Entry.Basic
import Std.Data.HashSet.Lemmas

/-!
# The live window

A bounded collection of the newest rows. Polling delivers overlapping pages, so `merge` goes by
keys: an entry is new when its key is not held. After every operation the window holds at most
`capacity` rows, no two with one key, ordered by instant with the newest first and the rows without
an instant last. Of rows that the order does not separate, those that arrived later stand first.

The watermark is kept for display; merging does not consult it.
-/

namespace QueryTail

/-- What happens to held rows when the capacity changes. -/
inductive CapacityPolicy where
  /-- Drop every row. -/
  | reset
  /-- Keep the rows and trim them to the new capacity. -/
  | retain
  deriving DecidableEq, Repr

/-- The word for a policy. -/
def CapacityPolicy.label : CapacityPolicy → String
  | .reset => "reset"
  | .retain => "retain"

/-- The policy that a word stands for. -/
def CapacityPolicy.ofLabel? (label : String) : Option CapacityPolicy :=
  if label = "reset" then some .reset
  else if label = "retain" then some .retain
  else none

@[simp] theorem CapacityPolicy.ofLabel?_label (policy : CapacityPolicy) :
    ofLabel? policy.label = some policy := by
  cases policy <;> decide

/-- One row may stand before another: it is not older. A row without an instant is older than
every row with one. -/
def Row.notOlder (first second : Row) : Bool :=
  match first.resolved, second.resolved with
  | some left, some right => !decide (left < right)
  | some _, none => true
  | none, some _ => false
  | none, none => true

/-- A bounded window over the newest rows. -/
structure Window where
  capacity : Nat
  rows : List Row
  watermark : Option Time.Instant

/-- What one merge did. -/
structure MergeResult where
  /-- The watermark before the merge. -/
  previousWatermark : Option Time.Instant
  /-- The watermark after it. -/
  watermark : Option Time.Instant
  /-- How many keys of the page were not held before. -/
  newCount : Nat
  /-- The new keys that the window holds after the merge, in window order. -/
  newKeys : List Key
  /-- How many rows the capacity pushed out. -/
  evicted : Nat
  /-- How many rows the window holds after the merge. -/
  retained : Nat

/-- The merge found nothing new. -/
def MergeResult.isNoop (result : MergeResult) : Bool :=
  result.newCount == 0

namespace Window

/-- The instant of the first row that has one. -/
def firstResolved (rows : List Row) : Option Time.Instant :=
  rows.findSome? Row.resolved

/-- An empty window. A window has room for at least one row. -/
def empty (capacity : Nat) : Window :=
  ⟨max capacity 1, [], none⟩

/-- The keys of a list of rows, as a set. -/
def keySet (rows : List Row) : Std.HashSet Key :=
  Std.HashSet.ofList (rows.map Row.key)

@[simp] theorem contains_keySet (rows : List Row) (key : Key) :
    (keySet rows).contains key = (rows.map Row.key).contains key := by
  simp [keySet]

/-- The entries of a page whose keys are not in a set, each key at its first occurrence. -/
def unseen (seen : Std.HashSet Key) : List Entry → List Entry
  | [] => []
  | entry :: rest =>
    if seen.contains entry.key then unseen seen rest
    else entry :: unseen (seen.insert entry.key) rest

/-- The rows of a page that a window does not hold yet. -/
def fresh (window : Window) (page : List Entry) : List Row :=
  (unseen (keySet window.rows) page).map Row.ofEntry

/-- Newest first; the sort is stable, so that rows of equal age keep their order. -/
def newestFirst (rows : List Row) : List Row :=
  rows.mergeSort Row.notOlder

/-- Merge a page into the window. New rows go in front of the held ones before sorting, which puts
them first among rows of equal age. -/
def merge (window : Window) (page : List Entry) : Window × MergeResult :=
  let fresh := window.fresh page
  if fresh.isEmpty then
    (window,
      { previousWatermark := window.watermark, watermark := window.watermark
        newCount := 0, newKeys := [], evicted := 0, retained := window.rows.length })
  else
    let sorted := newestFirst (fresh ++ window.rows)
    let kept := sorted.take window.capacity
    let watermark := firstResolved kept
    let freshKeys := keySet fresh
    ({ window with rows := kept, watermark },
      { previousWatermark := window.watermark, watermark
        newCount := fresh.length
        newKeys := (kept.map Row.key).filter freshKeys.contains
        evicted := sorted.length - window.capacity
        retained := kept.length })

/-- Change the capacity, which drops rows as the policy says; also tells how many. -/
def setCapacity (window : Window) (capacity : Nat) (policy : CapacityPolicy) : Window × Nat :=
  let capacity := max capacity 1
  let kept := match policy with
    | .reset => []
    | .retain => window.rows.take capacity
  (⟨capacity, kept, firstResolved kept⟩, window.rows.length - kept.length)

/-! ### Runs -/

/-- One operation on a window. -/
inductive Operation where
  | merge (page : List Entry)
  | setCapacity (capacity : Nat) (policy : CapacityPolicy)

/-- The window after one operation. -/
def apply (window : Window) : Operation → Window
  | .merge page => (window.merge page).1
  | .setCapacity capacity policy => (window.setCapacity capacity policy).1

/-- The window after a run of operations. -/
def run (window : Window) (operations : List Operation) : Window :=
  operations.foldl apply window

/-- The windows that operations lead to from an empty one. -/
def Reachable (window : Window) : Prop :=
  ∃ capacity operations, window = (empty capacity).run operations

@[simp] theorem run_nil (window : Window) : window.run [] = window := rfl

@[simp] theorem run_cons (window : Window) (operation : Operation) (rest : List Operation) :
    window.run (operation :: rest) = (window.apply operation).run rest := rfl

/-- Two lists of operations in a row are run one after the other. -/
theorem run_append (window : Window) (first second : List Operation) :
    window.run (first ++ second) = (window.run first).run second :=
  List.foldl_append

end Window

end QueryTail
