import QueryTail.Proofs.View.Step
import QueryTail.Proofs.Window.Accounting

/-!
# Which rows are recent

A view does not keep when a row arrived. It keeps marks, which are set, set anew, expired, pruned
and cleared. They nevertheless answer from the past of the run alone: a row is recent for as long as
marks last after the page that brought its key into the window, most recently and in the current
session (`arrival?`).

The invariant is `Timed`: at the time of asking, the mark of a held key either runs out as long
after its arrival as marks last, or is gone because that time has passed. It is stated for the time
of asking from the start, and so needs no order among earlier times.
-/

namespace QueryTail

namespace Window

variable {window : Window} {page : List Entry} {key : Key}

/-- A key that is in the window after a merge is reported exactly if it was not held before. -/
theorem WellFormed.mem_newKeys_iff (holds : window.WellFormed)
    (kept : key ∈ (window.merge page).1.keys) :
    key ∈ (window.merge page).2.newKeys ↔ key ∉ window.keys := by
  rw [holds.newKeys_merge_eq, List.mem_filter, decide_eq_true_iff]
  exact and_iff_right kept

/-- A change of the capacity brings no key into the window. -/
theorem keys_setCapacity_subset (window : Window) (capacity : Nat) (policy : CapacityPolicy) :
    (window.setCapacity capacity policy).1.keys ⊆ window.keys := by
  cases policy with
  | reset => exact List.nil_subset _
  | retain => exact ((List.take_sublist _ _).map Row.key).subset

end Window

namespace View

variable {view after : View} {operation : Operation} {key : Key} {now : Nat}

/-! ### Arrivals -/

/-- The time of a moment at which an accepted page brings a key into the window. -/
def Moment.brings? (key : Key) (moment : Moment) : Option Nat :=
  match moment.operation with
  | .handle (.page generation _ _) now =>
    if moment.view.generation = some generation ∧ key ∉ moment.view.keys ∧
        key ∈ moment.after.keys then some now
    else none
  | _ => none

/-- The moments of the session that moments end in, latest first. -/
def currentSession (moments : List Moment) : List Moment :=
  moments.reverse.takeWhile fun moment => !moment.operation.changesSession

/-- The time of the page that most recently brought a key into the window, in the session that a run
ends in. -/
def arrival? (start : View) (operations : List Operation) (key : Key) : Option Nat :=
  (currentSession (start.moments operations)).findSome? (Moment.brings? key)

/-- A last operation clears all arrivals, brings the key in or leaves its arrival as it was. -/
theorem arrival?_concat (start : View) (operations : List Operation) (operation : Operation)
    (key : Key) :
    start.arrival? (operations ++ [operation]) key =
      if operation.changesSession then none
      else ((Moment.mk (start.run operations) operation).brings? key).or
        (start.arrival? operations key) := by
  rw [arrival?, currentSession, moments_concat, List.reverse_concat, List.takeWhile_cons]
  cases operation.changesSession with
  | true => rfl
  | false =>
    rw [Bool.not_false, if_pos rfl, List.findSome?_cons]
    cases (Moment.mk (start.run operations) operation).brings? key <;> rfl

/-! ### Marks -/

/-- Pruning leaves the marks of keys that are held alone. -/
theorem getElem?_pruneMarks (held : key ∈ view.keys) :
    view.pruneMarks.marks.expiries[key]? = view.marks.expiries[key]? := by
  have keep : (Window.keySet view.rows).contains key = true := by
    rw [Window.contains_keySet]
    exact List.contains_iff_mem.mpr held
  rw [pruneMarks, Marks.getElem?_retain]
  cases view.marks.expiries[key]? with
  | none => rfl
  | some expiry => simp [Option.filter, keep]

/-- A page that is taken marks its new keys and leaves the other marks alone. -/
theorem getElem?_takePage {window : Window} {page : List Entry} (view : View) (now : Nat)
    (held : key ∈ (window.merge page).1.keys) :
    (view.takePage window page now).marks.expiries[key]? =
      if key ∈ (window.merge page).2.newKeys then some (now + view.marks.lifetime)
      else view.marks.expiries[key]? := by
  rw [← Marks.getElem?_mark]
  unfold takePage
  dsimp only
  split
  · exact getElem?_pruneMarks held
  · rfl

/-- After an accepted page the view has the keys that the window has after the merge. -/
theorem keys_handle_page {generation : Nat} {window : Window}
    (accepts : view.generation = some generation) (tails : view.window = some window)
    (node : String) (page : List Entry) (now : Nat) :
    (view.handle (.page generation node page) now).1.keys = (window.merge page).1.keys := by
  rw [handle_page accepts]
  cases new : (window.merge page).2.isNoop with
  | true =>
    rw [acceptPage_of_isNoop tails new, keys, rows_of_window tails, Window.merge_of_isNoop new,
      Window.keys]
  | false =>
    rw [acceptPage_of_not_isNoop tails new, Window.keys, ← rows_takePage view window page now]
    rfl

/-- What a step means for the mark of a key that is held after it. -/
inductive MarkStep (view : View) (operation : Operation) (after : View) (key : Key) : Prop where
  /-- A page brings the key, which is marked. -/
  | brought {generation now : Nat} {node : String} {page : List Entry}
      (message : operation = .handle (.page generation node page) now)
      (accepts : view.generation = some generation) (absent : key ∉ view.keys)
      (marked : after.marks.expiries[key]? = some (now + view.marks.lifetime))
  /-- The key was held and its mark stays. -/
  | kept (held : key ∈ view.keys)
      (same : after.marks.expiries[key]? = view.marks.expiries[key]?)
  /-- The key was held, and its mark is removed if it has run out. -/
  | aged {now : Nat} (held : key ∈ view.keys) (expires : operation = .expireMarks now)
      (left : after.marks.expiries[key]? = view.marks.expiries[key]?.filter (decide <| now < ·))

/-- A step does one of three things to the mark of a key that is held after it. -/
theorem Step.markStep (step : view.Step operation after) (holds : view.WellFormed)
    (held : key ∈ after.keys) : view.MarkStep operation after key := by
  cases step with
  | session changes rows =>
    rw [keys, rows] at held
    exact absurd held List.not_mem_nil
  | edited => exact .kept held rfl
  | filtered => exact .kept held rfl
  | expired now => exact .aged held rfl Marks.getElem?_expire
  | @resized capacity window inside tails =>
    have before : key ∈ view.keys := by
      rw [keys, rows_of_window tails]
      exact Window.keys_setCapacity_subset window capacity view.policy held
    exact .kept before (getElem?_pruneMarks held)
  | @merged generation now node status page window accepts tails new =>
    have inWindow : key ∈ (window.merge page).1.keys := by
      rw [Window.keys, ← rows_takePage view window page now]
      exact held
    have same : view.keys = window.keys := by rw [keys, rows_of_window tails, Window.keys]
    have reported := (holds.wellFormed window tails).mem_newKeys_iff inWindow
    have marks := getElem?_takePage view now inWindow
    by_cases before : key ∈ view.keys
    · rw [if_neg (by rw [reported, ← same]; exact not_not_intro before)] at marks
      exact .kept before marks
    · rw [if_pos (by rw [reported, ← same]; exact before)] at marks
      exact .brought rfl accepts before marks
  | quiet stays rows marks =>
    rw [keys, rows] at held
    exact .kept held (by rw [marks])

/-- No operation changes how long marks last. -/
theorem Step.lifetime_eq (step : view.Step operation after) :
    after.marks.lifetime = view.marks.lifetime := by
  cases step with
  | session changes rows shown marks => rw [marks]; rfl
  | edited => rfl
  | filtered => rfl
  | expired => rfl
  | resized => rfl
  | @merged generation now node status page window =>
    change (view.takePage window page now).marks.lifetime = _
    unfold takePage
    dsimp only
    split <;> rfl
  | quiet stays rows marks => rw [marks]

/-- The time that marks last never changes. -/
theorem lifetime_run (start : View) (operations : List Operation) :
    (start.run operations).marks.lifetime = start.marks.lifetime := by
  induction operations using List.reverseRecOn with
  | nil => rfl
  | append_singleton earlier operation ih =>
    rw [run_concat, (step_apply _ operation).lifetime_eq, ih]

/-- If a key is held it has arrived. By the time of asking its mark runs out as long after that as
marks last, or is gone because it has run out. -/
def Timed (view : View) (key : Key) (arrival : Option Nat) (now : Nat) : Prop :=
  key ∈ view.keys → ∃ time, arrival = some time ∧
    (view.marks.expiries[key]? = some (time + view.marks.lifetime) ∨
      view.marks.expiries[key]? = none ∧ time + view.marks.lifetime ≤ now)

/-- A session begins and ends without rows. -/
theorem keys_of_changesSession (changes : operation.changesSession = true) :
    (view.apply operation).keys = [] := by
  cases operation <;> first | rfl | cases changes

/-- A key that is held is not brought. -/
theorem Moment.brings?_of_held {moment : Moment} (held : key ∈ moment.view.keys) :
    moment.brings? key = none := by
  unfold Moment.brings?
  split
  · exact if_neg fun brought => brought.2.1 held
  · rfl

/-- An operation keeps the timing of a key, its arrival included. -/
theorem Timed.apply {arrival : Option Nat} (timed : view.Timed key arrival now)
    (holds : view.WellFormed) (past : ∀ time ∈ operation.time?, time ≤ now) :
    (view.apply operation).Timed key
      (if operation.changesSession then none
        else ((Moment.mk view operation).brings? key).or arrival) now := by
  intro held
  have step := view.step_apply operation
  have stays : ¬operation.changesSession = true := fun changes => by
    rw [keys_of_changesSession changes] at held
    exact List.not_mem_nil held
  rw [step.lifetime_eq, if_neg stays]
  cases step.markStep holds held with
  | @brought generation time node page message accepts absent marked =>
    subst message
    refine ⟨time, ?_, Or.inl marked⟩
    have brings : (Moment.mk view (.handle (.page generation node page) time)).brings? key =
        some time := if_pos ⟨accepts, absent, held⟩
    rw [brings]
    rfl
  | kept before same =>
    rw [Moment.brings?_of_held before, same]
    exact timed before
  | @aged expiring before expires left =>
    subst expires
    rw [Moment.brings?_of_held before, left]
    obtain ⟨time, arrived, marked | ⟨gone, done⟩⟩ := timed before
    · refine ⟨time, arrived, ?_⟩
      rw [marked, Option.filter_some]
      by_cases lasts : expiring < time + view.marks.lifetime
      · exact Or.inl (if_pos (decide_eq_true lasts))
      · refine Or.inr ⟨if_neg (by simpa using lasts), ?_⟩
        exact (not_lt.mp lasts).trans (past expiring rfl)
    · exact ⟨time, arrived, Or.inr ⟨by rw [gone]; rfl, done⟩⟩

/-- No operation has happened later than at a time, as is the case at the end of a run whose times
do not decrease. -/
def HappenBy (operations : List Operation) (now : Nat) : Prop :=
  ∀ operation ∈ operations, ∀ time ∈ operation.time?, time ≤ now

instance (operations : List Operation) (now : Nat) : Decidable (HappenBy operations now) :=
  inferInstanceAs (Decidable (∀ operation ∈ operations, ∀ time ∈ operation.time?, time ≤ now))

/-- In every run of a new view, keys that are held are timed by their arrivals. -/
theorem timed_run (capacity : Nat) (policy : CapacityPolicy) (lifetime : Nat)
    {operations : List Operation} (past : HappenBy operations now) :
    let start := new capacity policy lifetime
    (start.run operations).Timed key (start.arrival? operations key) now := by
  intro start
  induction operations using List.reverseRecOn with
  | nil => exact fun held => absurd held List.not_mem_nil
  | append_singleton earlier operation ih =>
    rw [run_concat, arrival?_concat]
    have holds := (wellFormed_new capacity policy lifetime).run earlier
    refine (ih fun other member => past other ?_).apply holds (past operation ?_)
    · exact List.mem_append_left [operation] member
    · exact List.mem_append_right earlier List.mem_cons_self

/-- A key is recent as long as its mark has not run out. -/
theorem isRecent_eq (view : View) (key : Key) (now : Nat) :
    view.isRecent key now = view.marks.expiries[key]?.any (decide <| now < ·) :=
  Marks.isMarked_eq view.marks key now

/-- A held key is recent as long after its arrival as marks last. -/
theorem Timed.isRecent_iff {arrival : Option Nat} (timed : view.Timed key arrival now)
    (marksHeld : view.MarksHeld) :
    view.isRecent key now = true ↔
      key ∈ view.keys ∧ ∃ time, arrival = some time ∧ now < time + view.marks.lifetime := by
  rw [isRecent_eq]
  by_cases held : key ∈ view.keys
  · obtain ⟨time, rfl, marked | ⟨gone, done⟩⟩ := timed held
    · simp [marked, held]
    · simp [gone, done]
  · have unmarked : view.marks.expiries[key]? = none :=
      Std.HashMap.getElem?_eq_none fun marked => held (marksHeld key marked)
    simp [unmarked, held]

/-! ### Expiry -/

/-- The operation removes marks that have run out. -/
def Operation.expires : Operation → Bool
  | .expireMarks _ => true
  | _ => false

/-- Only expiring marks expires anything. -/
theorem Operation.exists_of_expires (expires : operation.expires = true) :
    ∃ now, operation = .expireMarks now := by
  cases operation <;> first | exact ⟨_, rfl⟩ | cases expires

/-- Apart from marks, a page does the same to views that are the same. -/
theorem unmarked_acceptPage (view : View) (node : String) (page : List Entry) (now : Nat) :
    (view.unmarked.acceptPage node page now).1.unmarked =
      (view.acceptPage node page now).1.unmarked := by
  cases tails : view.window with
  | none =>
    have idle : view.unmarked.window = none := tails
    rw [acceptPage_of_none tails, acceptPage_of_none idle]
    rfl
  | some window =>
    have same : view.unmarked.window = some window := tails
    cases new : (window.merge page).2.isNoop with
    | true =>
      rw [acceptPage_of_isNoop tails new, acceptPage_of_isNoop same new]
      rfl
    | false =>
      rw [acceptPage_of_not_isNoop tails new, acceptPage_of_not_isNoop same new]
      have taken : (view.unmarked.takePage window page now).unmarked =
          (view.takePage window page now).unmarked := by
        rw [unmarked_takePage, unmarked_takePage]
        rfl
      -- The status tells how many rows are shown, which the marks do not decide.
      let result := (window.merge page).2
      let told (view : View) : View :=
        let view := view.applyFilter
        let status :=
          s!"{result.newCount} new from {node}; showing {view.shown.length} of {result.retained}."
        { view with status }
      exact congrArg told taken

/-- What an operation does apart from the marks does not depend on them. -/
theorem unmarked_apply (view : View) (operation : Operation) :
    (view.unmarked.apply operation).unmarked = (view.apply operation).unmarked := by
  cases operation with
  | setCapacity capacity =>
    cases inside : Limits.capacity.holds capacity with
    | false => simp only [apply, setCapacity_of_outside inside, unmarked]
    | true =>
      cases tails : view.window with
      | none =>
        have idle : view.unmarked.window = none := tails
        simp only [apply, setCapacity_of_none inside tails, setCapacity_of_none inside idle]
        rfl
      | some window =>
        have same : view.unmarked.window = some window := tails
        simp only [apply, setCapacity_of_some inside tails, setCapacity_of_some inside same]
        rfl
  | handle message now =>
    by_cases accepts : view.generation = some message.generation
    · have same : view.unmarked.generation = some message.generation := accepts
      dsimp only [apply]
      unfold handle
      rw [if_pos accepts, if_pos same]
      cases message with
      | page generation node page => exact unmarked_acceptPage view node page now
      | _ => rfl
    · have stale : view.unmarked.generation ≠ some message.generation := accepts
      dsimp only [apply]
      rw [handle_of_stale accepts, handle_of_stale stale]
      rfl
  | _ => rfl

/-- The operations of a run without those that remove marks that have run out. -/
def withoutExpiry (operations : List Operation) : List Operation :=
  operations.filter fun operation => !operation.expires

/-- A last operation counts, unless it expires marks. -/
theorem withoutExpiry_concat (operations : List Operation) (operation : Operation) :
    withoutExpiry (operations ++ [operation]) =
      withoutExpiry operations ++ if operation.expires then [] else [operation] := by
  rw [withoutExpiry, List.filter_append, List.filter_singleton]
  cases operation.expires <;> rfl

/-- The expiry leaves alone all but the marks. -/
theorem unmarked_run_withoutExpiry (start : View) (operations : List Operation) :
    (start.run (withoutExpiry operations)).unmarked = (start.run operations).unmarked := by
  induction operations using List.reverseRecOn with
  | nil => rfl
  | append_singleton earlier operation ih =>
    rw [withoutExpiry_concat, run_concat]
    cases expires : operation.expires with
    | true =>
      obtain ⟨now, rfl⟩ := Operation.exists_of_expires expires
      rw [if_pos rfl, List.append_nil, ih]
      rfl
    | false =>
      rw [if_neg Bool.false_ne_true, run_concat, ← unmarked_apply, ih, unmarked_apply]

/-- Arrivals do not show in marks. -/
theorem Moment.brings?_congr {other : View} (same : view.unmarked = other.unmarked)
    (operation : Operation) (key : Key) :
    (Moment.mk view operation).brings? key = (Moment.mk other operation).brings? key := by
  have after : (view.apply operation).unmarked = (other.apply operation).unmarked := by
    rw [← unmarked_apply, same, unmarked_apply]
  have generation : view.generation = other.generation := (congrArg View.generation same :)
  have keys : view.keys = other.keys := (congrArg View.keys same :)
  have keysAfter : (view.apply operation).keys = (other.apply operation).keys :=
    (congrArg View.keys after :)
  unfold Moment.brings? Moment.after
  simp only [generation, keys, keysAfter]

/-- Expiring marks has no influence on arrivals. -/
theorem arrival?_withoutExpiry (start : View) (operations : List Operation) (key : Key) :
    start.arrival? (withoutExpiry operations) key = start.arrival? operations key := by
  induction operations using List.reverseRecOn with
  | nil => rfl
  | append_singleton earlier operation ih =>
    rw [withoutExpiry_concat, arrival?_concat]
    cases expires : operation.expires with
    | true =>
      obtain ⟨now, rfl⟩ := Operation.exists_of_expires expires
      rw [if_pos rfl, List.append_nil, ih]
      rfl
    | false =>
      have same := unmarked_run_withoutExpiry start earlier
      rw [if_neg Bool.false_ne_true, arrival?_concat, Moment.brings?_congr same, ih]

/-- After any operations a key is recent exactly if it is in the window and the page that brought it
there most recently, in the current session, is less than the lifetime of marks ago. A key in the
window has been brought there by such a page. Without the expiry the answers are the same. -/
theorem isRecent_run_iff (capacity : Nat) (policy : CapacityPolicy) (lifetime : Nat)
    (operations : List Operation) (key : Key) (now : Nat) (past : HappenBy operations now) :
    let start := new capacity policy lifetime
    let view := start.run operations
    (view.isRecent key now = true ↔
      key ∈ view.keys ∧
        ∃ arrival, start.arrival? operations key = some arrival ∧ now < arrival + lifetime) ∧
    (key ∈ view.keys → (start.arrival? operations key).isSome) ∧
    (start.run (withoutExpiry operations)).isRecent key now = view.isRecent key now := by
  intro start view
  have answers {operations : List Operation} (past : HappenBy operations now) :
      (start.run operations).isRecent key now = true ↔ key ∈ (start.run operations).keys ∧
        ∃ arrival, start.arrival? operations key = some arrival ∧ now < arrival + lifetime := by
    have holds := (wellFormed_new capacity policy lifetime).run operations
    have timed : (start.run operations).Timed key _ now := timed_run capacity policy lifetime past
    have recent := timed.isRecent_iff holds.marksHeld
    rwa [lifetime_run] at recent
  refine ⟨answers past, fun held => ?_, ?_⟩
  · obtain ⟨time, arrived, -⟩ := timed_run capacity policy lifetime past held
    exact Option.isSome_of_eq_some arrived
  · have kept : HappenBy (withoutExpiry operations) now :=
      fun operation member => past operation (List.mem_of_mem_filter member)
    have keys : (start.run (withoutExpiry operations)).keys = view.keys :=
      (congrArg View.keys (unmarked_run_withoutExpiry start operations) :)
    rw [Bool.eq_iff_iff, answers kept, answers past, arrival?_withoutExpiry, keys]

/-- A row comes back in a second session, and is recent for a whole lifetime again. -/
theorem isRecent_run_returning :
    let entry : Entry := ⟨"A", 1, some "2024-05-01T10:00:01Z", some "a.example", []⟩
    let earlier : List Operation :=
      [.enter 7, .handle (.page 7 "A" [entry]) 0, .reset 8, .expireMarks 5]
    let operations := earlier ++ [.handle (.page 8 "A" [entry]) 7]
    HappenBy operations 12 ∧ ((new 1 .retain 10).run operations).isRecent entry.key 12 = true := by
  intro entry earlier operations
  let start := new 1 .retain 10
  have past : HappenBy operations 12 := by decide
  refine ⟨past, (isRecent_run_iff 1 .retain 10 operations entry.key 12 past).1.mpr ?_⟩
  have accepts : (start.run earlier).generation = some 8 := rfl
  have absent : (start.run earlier).keys = [] := rfl
  have held : entry.key ∈ (start.run operations).keys := by
    let window := Window.empty (start.run (earlier.take 2)).capacity
    have tails : (start.run earlier).window = some window := rfl
    have room : (window.keys.toFinset ∪ Window.pageKeys [entry]).card ≤ window.capacity :=
      Nat.le_max_right _ 1
    have kept := ((Window.wellFormed_empty _).merge_of_room room).1
    rw [run_concat, apply, keys_handle_page accepts tails, ← List.mem_toFinset, kept]
    simp [Window.pageKeys]
  let last : Moment := ⟨start.run earlier, .handle (.page 8 "A" [entry]) 7⟩
  have brings : last.brings? entry.key = some 7 :=
    if_pos ⟨accepts, absent ▸ List.not_mem_nil, held⟩
  refine ⟨held, 7, ?_, by decide⟩
  rw [arrival?_concat, brings]
  rfl

end View

end QueryTail
