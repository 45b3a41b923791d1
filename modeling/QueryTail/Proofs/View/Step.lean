import QueryTail.Proofs.View.Invariant

/-!
# What an operation does to a view

Of the parts of a view that depend on one another, an operation changes the rows, the marks and the
places of the shown rows, and in most cases none of them. `Step` lists the cases once; what is
proved about runs goes by them (`step_apply`). Status, warnings and generation do not show here.

A run is looked at as the list of its moments: each operation, with the view that it is applied to.
So what a view owes to the past can be said by looking for a moment.
-/

namespace QueryTail

namespace View

variable {view : View} {operation : Operation}

/-- The keys of the rows, in window order. -/
def keys (view : View) : List Key :=
  view.rows.map Row.key

namespace Operation

/-- The operation begins or ends a session of the live tail. -/
def changesSession : Operation → Bool
  | .enter _ | .exit | .reset _ => true
  | _ => false

/-- The time of the operation, if it has one. -/
def time? : Operation → Option Nat
  | .expireMarks now => some now
  | .handle _ now => some now
  | _ => none

end Operation

/-! ### Moments -/

/-- An operation of a run, and the view that it is applied to. -/
structure Moment where
  view : View
  operation : Operation

/-- The view after the operation. -/
def Moment.after (moment : Moment) : View :=
  moment.view.apply moment.operation

/-- The moments of a run, in order. -/
def moments (view : View) : List Operation → List Moment
  | [] => []
  | operation :: rest => ⟨view, operation⟩ :: (view.apply operation).moments rest

@[simp] theorem run_nil (view : View) : view.run [] = view := rfl

@[simp] theorem run_cons (view : View) (operation : Operation) (rest : List Operation) :
    view.run (operation :: rest) = (view.apply operation).run rest := rfl

/-- A last operation comes after the run of those before it. -/
theorem run_concat (view : View) (operations : List Operation) (operation : Operation) :
    view.run (operations ++ [operation]) = (view.run operations).apply operation := by
  rw [run, List.foldl_concat]
  rfl

/-- A last operation is a moment after the run of those before it. -/
theorem moments_concat (view : View) (operations : List Operation) (operation : Operation) :
    view.moments (operations ++ [operation]) =
      view.moments operations ++ [⟨view.run operations, operation⟩] := by
  induction operations generalizing view with
  | nil => rfl
  | cons first rest ih =>
    rw [List.cons_append, moments, ih]
    rfl

/-- The operation brings the places of the shown rows up to date: it begins or ends a session,
applies the filter, changes the capacity of a window, or merges a page with something new. -/
def Moment.refreshes (moment : Moment) : Bool :=
  match moment.operation with
  | .enter _ | .exit | .reset _ | .applyFilter => true
  | .setCapacity capacity => moment.view.isTailing && (moment.view.setCapacity capacity).isOk
  | .handle message now =>
    match (moment.view.handle message now).2 with
    | some result => !result.isNoop
    | none => false
  | .setPolicy _ | .setFilter _ | .expireMarks _ => false

/-! ### Apart from the marks -/

/-- The view with its marks left out. -/
def unmarked (view : View) : View :=
  { view with marks := .empty 0 }

/-- A page that is taken changes the window and the marks, and nothing else. -/
theorem unmarked_takePage (view : View) (window : Window) (page : List Entry) (now : Nat) :
    (view.takePage window page now).unmarked =
      { view.unmarked with window := some (window.merge page).1 } := by
  unfold takePage
  dsimp only
  split <;> rfl

/-- A view that takes a page has the rows of the merged window. -/
theorem rows_takePage (view : View) (window : Window) (page : List Entry) (now : Nat) :
    (view.takePage window page now).rows = (window.merge page).1.rows :=
  (congrArg rows (view.unmarked_takePage window page now) :)

/-- Taking a page leaves the filter alone. -/
theorem filter_takePage (view : View) (window : Window) (page : List Entry) (now : Nat) :
    (view.takePage window page now).filter = view.filter :=
  (congrArg View.filter (view.unmarked_takePage window page now) :)

/-! ### Steps -/

/-- What an operation makes of a view. -/
inductive Step (view : View) : Operation → View → Prop where
  /-- A session begins or ends, without rows. -/
  | session {operation after} (changes : operation.changesSession = true)
      (rows : after.rows = []) (shown : after.shown = []) (marks : after.marks = view.marks.clear)
      (filter : after.filter = view.filter) : Step view operation after
  /-- The filter is edited but not applied. -/
  | edited (filter : Filter) : Step view (.setFilter filter) { view with filter }
  | filtered : Step view .applyFilter view.applyFilter
  | expired (now : Nat) : Step view (.expireMarks now) (view.expireMarks now).1
  /-- The window gets another capacity. -/
  | resized {capacity : Nat} {window : Window} (inside : Limits.capacity.holds capacity = true)
      (tails : view.window = some window) :
      Step view (.setCapacity capacity)
        { view with
          capacity
          window := some (window.setCapacity capacity view.policy).1 }.pruneMarks.applyFilter
  /-- The window takes a page with something new. -/
  | merged {generation now : Nat} {node status : String} {page : List Entry} {window : Window}
      (accepts : view.generation = some generation) (tails : view.window = some window)
      (new : (window.merge page).2.isNoop = false) :
      Step view (.handle (.page generation node page) now)
        { (view.takePage window page now).applyFilter with status }
  /-- Nothing happens that shows in rows, marks and places. -/
  | quiet {operation after} (stays : (Moment.mk view operation).refreshes = false)
      (rows : after.rows = view.rows) (marks : after.marks = view.marks)
      (shown : after.shown = view.shown) (filter : after.filter = view.filter) :
      Step view operation after

/-- Setting a capacity is a step. -/
theorem step_setCapacity (view : View) (capacity : Nat) :
    view.Step (.setCapacity capacity) (view.apply (.setCapacity capacity)) := by
  dsimp only [View.apply]
  cases inside : Limits.capacity.holds capacity with
  | false =>
    rw [setCapacity_of_outside inside]
    refine .quiet ?_ rfl rfl rfl rfl
    simp [Moment.refreshes, setCapacity_of_outside inside, Except.isOk, Except.toBool]
  | true =>
    cases tails : view.window with
    | none =>
      rw [setCapacity_of_none inside tails]
      exact .quiet (by simp [Moment.refreshes, isTailing, tails]) rfl rfl rfl rfl
    | some window =>
      rw [setCapacity_of_some inside tails]
      exact .resized inside tails

/-- A message of a generation that is not listened to changes nothing. -/
theorem handle_of_stale {message : Progress} {now : Nat}
    (stale : view.generation ≠ some message.generation) :
    view.handle message now = (view, none) :=
  if_neg stale

/-- A page of the generation that is listened to is accepted. -/
theorem handle_page {generation : Nat} (accepts : view.generation = some generation) (node : String)
    (page : List Entry) (now : Nat) :
    view.handle (.page generation node page) now = view.acceptPage node page now :=
  if_pos accepts

/-- A message that merges no page leaves rows, marks and places alone. -/
theorem step_of_no_result {message : Progress} {now : Nat} {after : View}
    (handled : view.handle message now = (after, none)) (rows : after.rows = view.rows)
    (marks : after.marks = view.marks) (shown : after.shown = view.shown)
    (filter : after.filter = view.filter) :
    view.Step (.handle message now) (view.handle message now).1 := by
  rw [handled]
  exact .quiet (by simp [Moment.refreshes, handled]) rows marks shown filter

/-- An accepted page is a step. -/
theorem step_page {generation : Nat} (accepts : view.generation = some generation) (node : String)
    (page : List Entry) (now : Nat) :
    view.Step (.handle (.page generation node page) now)
      (view.handle (.page generation node page) now).1 := by
  have handled := handle_page accepts node page now
  cases tails : view.window with
  | none => exact step_of_no_result (handled.trans (acceptPage_of_none tails)) rfl rfl rfl rfl
  | some window =>
    cases new : (window.merge page).2.isNoop with
    | true =>
      rw [handled, acceptPage_of_isNoop tails new]
      refine .quiet ?_ rfl rfl rfl rfl
      simp [Moment.refreshes, handled, acceptPage_of_isNoop tails new, new]
    | false =>
      rw [handled, acceptPage_of_not_isNoop tails new]
      exact .merged accepts tails new

/-- Handling a message is a step. -/
theorem step_handle (view : View) (message : Progress) (now : Nat) :
    view.Step (.handle message now) (view.handle message now).1 := by
  by_cases accepts : view.generation = some message.generation
  · cases message with
    | page generation node page => exact step_page accepts node page now
    | started generation nodeCount => exact step_of_no_result (if_pos accepts) rfl rfl rfl rfl
    | fetchFailed generation node message =>
      exact step_of_no_result (if_pos accepts) rfl rfl rfl rfl
    | stopped generation => exact step_of_no_result (if_pos accepts) rfl rfl rfl rfl
  · exact step_of_no_result (handle_of_stale accepts) rfl rfl rfl rfl

/-- Every operation makes one of the steps. -/
theorem step_apply (view : View) (operation : Operation) :
    view.Step operation (view.apply operation) := by
  cases operation with
  | enter generation => exact .session rfl rfl rfl rfl rfl
  | exit => exact .session rfl rfl rfl rfl rfl
  | reset generation => exact .session rfl rfl rfl rfl rfl
  | setCapacity capacity => exact view.step_setCapacity capacity
  | setPolicy policy => exact .quiet rfl rfl rfl rfl rfl
  | setFilter filter => exact .edited filter
  | applyFilter => exact .filtered
  | expireMarks now => exact .expired now
  | handle message now => exact view.step_handle message now

end View

end QueryTail
