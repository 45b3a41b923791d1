import QueryTail.Proofs.View.Recent

/-!
# Sessions

A session of the live tail begins empty and listens to one generation. Nothing from before its
beginning and no message of another generation has an influence on it: it passes through the same
views as the first session of a new view that never gets such a message (`reset_run`).

For its window even less counts. What the window holds, and what is answered to a page, is told by
the pages of the generation and the accepted capacities alone, each with the policy in force when it
was set (`windowOperations`). The session follows a bare window step by step (`Follows`).
-/

namespace QueryTail

namespace View

variable {view : View} {operation : Operation} {operations : List Operation} {generation now : Nat}

/-- The operations begin and end no session. -/
def StaysInSession (operations : List Operation) : Prop :=
  ∀ operation ∈ operations, operation.changesSession = false

instance (operations : List Operation) : Decidable (StaysInSession operations) :=
  inferInstanceAs (Decidable (∀ operation ∈ operations, operation.changesSession = false))

/-- A session that goes on does so operation by operation. -/
theorem StaysInSession.cons (stays : StaysInSession (operation :: operations)) :
    operation.changesSession = false ∧ StaysInSession operations :=
  List.forall_mem_cons.mp stays

/-! ### The window of a session -/

/-- The policy in force after an operation. -/
def Operation.policyAfter (policy : CapacityPolicy) : Operation → CapacityPolicy
  | .setPolicy policy => policy
  | _ => policy

/-- The page that a message brings to a session that listens to a generation. -/
def pageFor? (generation : Nat) : Progress → Option (List Entry)
  | .page sender _ page => if sender = generation then some page else none
  | _ => none

/-- What an operation means for the window of a session that listens to a generation. -/
def Operation.onWindow? (generation : Nat) (policy : CapacityPolicy) :
    Operation → Option Window.Operation
  | .handle message _ => (pageFor? generation message).map .merge
  | .setCapacity capacity =>
    if 1 ≤ capacity ∧ capacity ≤ 10000 then some (.setCapacity capacity policy) else none
  | _ => none

/-- What operations mean for the window of a session, given the policy in force at first. -/
def windowOperations (generation : Nat) : CapacityPolicy → List Operation → List Window.Operation
  | _, [] => []
  | policy, operation :: rest =>
    (operation.onWindow? generation policy).toList ++
      windowOperations generation (operation.policyAfter policy) rest

/-- A message of another generation brings no page. -/
theorem pageFor?_of_stale {message : Progress} (stale : message.generation ≠ generation) :
    pageFor? generation message = none := by
  cases message with
  | page sender node page => exact if_neg stale
  | _ => rfl

/-- A view is in a session that listens to a generation, with a policy in force and a window. -/
structure Follows (view : View) (generation : Nat) (policy : CapacityPolicy) (window : Window) :
    Prop where
  listens : view.generation = some generation
  inForce : view.policy = policy
  tails : view.window = some window

namespace Follows

variable {policy : CapacityPolicy} {window : Window}

/-- A session begins with an empty window of the capacity that is set. -/
theorem enter (view : View) (generation : Nat) :
    (view.enter generation).Follows generation view.policy (.empty view.capacity) :=
  ⟨rfl, rfl, rfl⟩

/-- A new capacity does to the window what it means for the window. -/
theorem setCapacity (follows : view.Follows generation policy window) (capacity : Nat) :
    (view.apply (.setCapacity capacity)).Follows generation policy
      (window.run ((Operation.setCapacity capacity).onWindow? generation policy).toList) := by
  dsimp only [View.apply, Operation.onWindow?]
  by_cases inside : 1 ≤ capacity ∧ capacity ≤ 10000
  · have holds : Limits.capacity.holds capacity = true := Limits.holds_iff.mpr inside
    rw [if_pos inside, setCapacity_of_some holds follows.tails]
    refine ⟨follows.listens, follows.inForce, ?_⟩
    rw [← follows.inForce]
    rfl
  · have outside : Limits.capacity.holds capacity = false :=
      Bool.eq_false_iff.mpr (mt Limits.holds_iff.mp inside)
    rw [if_neg inside, setCapacity_of_outside outside]
    exact follows

/-- A page of the generation is merged, and the result of the merge is the answer. -/
theorem page (follows : view.Follows generation policy window) (node : String)
    (page : List Entry) (now : Nat) :
    (view.handle (.page generation node page) now).2 = some (window.merge page).2 ∧
      (view.handle (.page generation node page) now).1.Follows generation policy
        (window.merge page).1 := by
  rw [handle_page follows.listens]
  cases new : (window.merge page).2.isNoop with
  | true =>
    rw [acceptPage_of_isNoop follows.tails new, Window.merge_of_isNoop new]
    exact ⟨rfl, follows⟩
  | false =>
    rw [acceptPage_of_not_isNoop follows.tails new]
    have taken := view.unmarked_takePage window page now
    refine ⟨rfl, (congrArg View.generation taken :).trans follows.listens,
      (congrArg View.policy taken :).trans follows.inForce, (congrArg View.window taken :)⟩

/-- A message does to the window what it means for the window. -/
theorem handle (follows : view.Follows generation policy window) (message : Progress) (now : Nat) :
    (view.handle message now).1.Follows generation policy
      (window.run ((pageFor? generation message).map .merge).toList) := by
  by_cases heard : message.generation = generation
  · have accepts : view.generation = some message.generation := heard ▸ follows.listens
    cases message with
    | page sender node page =>
      obtain rfl : sender = generation := heard
      rw [pageFor?, if_pos rfl]
      exact (follows.page node page now).2
    | started | fetchFailed | stopped =>
      rw [View.handle, if_pos accepts]
      exact ⟨follows.listens, follows.inForce, follows.tails⟩
  · have stale : view.generation ≠ some message.generation := fun accepts =>
      heard (Option.some.inj (accepts.symm.trans follows.listens))
    rw [handle_of_stale stale, pageFor?_of_stale heard]
    exact follows

/-- An operation of a session does to the window what it means for the window. -/
theorem apply (follows : view.Follows generation policy window)
    (stays : operation.changesSession = false) :
    (view.apply operation).Follows generation (operation.policyAfter policy)
      (window.run (operation.onWindow? generation policy).toList) := by
  cases operation with
  | enter | exit | reset => cases stays
  | setCapacity capacity => exact follows.setCapacity capacity
  | setPolicy policy => exact ⟨follows.listens, rfl, follows.tails⟩
  | handle message now => exact follows.handle message now
  | setFilter | applyFilter | expireMarks =>
    exact ⟨follows.listens, follows.inForce, follows.tails⟩

/-- The operations of a session do to the window what they mean for the window. -/
theorem run (follows : view.Follows generation policy window) (stays : StaysInSession operations) :
    (view.run operations).Follows generation (operations.foldl Operation.policyAfter policy)
      (window.run (windowOperations generation policy operations)) := by
  induction operations generalizing view policy window with
  | nil => exact follows
  | cons operation rest ih =>
    obtain ⟨first, later⟩ := stays.cons
    rw [windowOperations, Window.run_append]
    exact ih (follows.apply first) later

end Follows

/-- In a session, whatever came before it, the window is the one that the pages of the session's
generation and the accepted capacities make of an empty window. Every page of the generation is
answered by the result of its merge into that window. No other operation touches the window. -/
theorem window_run (capacity : Nat) (policy : CapacityPolicy) (lifetime : Nat)
    (earlier : List Operation) (generation : Nat) (entry : Operation)
    (begins : entry = .enter generation ∨ entry = .reset generation)
    (operations : List Operation) (stays : StaysInSession operations) :
    let before := (new capacity policy lifetime).run earlier
    let view := (before.apply entry).run operations
    let window := (Window.empty before.capacity).run
      (windowOperations generation before.policy operations)
    view.window = some window ∧
      (∀ node page now,
        (view.handle (.page generation node page) now).2 = some (window.merge page).2) ∧
      ∀ operation, operation.changesSession = false →
        operation.onWindow? generation view.policy = none →
          (view.apply operation).window = some window := by
  intro before view window
  have entered : (before.apply entry).Follows generation before.policy
      (.empty before.capacity) := by
    rcases begins with rfl | rfl
    · exact .enter before generation
    · exact .enter { before with warnings := [] } generation
  have follows : view.Follows generation view.policy window := by
    have reached := entered.run stays
    exact reached.inForce ▸ reached
  refine ⟨follows.tails, fun node page now => (follows.page node page now).1, ?_⟩
  intro operation inside untouched
  have next := (follows.apply inside).tails
  rwa [untouched] at next

/-- A session with a policy that changes before a change of the capacity, and a refused capacity. -/
theorem window_run_resized :
    let entry : Entry := ⟨"A", 1, some "2024-05-01T10:00:01Z", some "a.example", []⟩
    let before := (new 3 .reset 10).run [.enter 1, .handle (.fetchFailed 1 "A" "refused") 0]
    let operations : List Operation :=
      [.handle (.page 2 "A" [entry]) 4, .handle (.page 1 "A" [entry]) 5, .setPolicy .retain,
        .setFilter (.singleSource "B"), .setCapacity 1, .expireMarks 20, .setCapacity 0]
    let view := (before.apply (.reset 2)).run operations
    let window := (Window.empty 3).run [.merge [entry], .setCapacity 1 .retain]
    StaysInSession operations ∧ view.window = some window ∧
      (view.handle (.page 2 "B" []) 9).2 = some (window.merge []).2 := by
  intro entry before operations view window
  have stays : StaysInSession operations := by decide
  have ran := window_run 3 .reset 10 [.enter 1, .handle (.fetchFailed 1 "A" "refused") 0] 2
    (.reset 2) (Or.inr rfl) operations stays
  exact ⟨stays, ran.1, ran.2.1 "B" [] 9⟩

/-! ### Isolation -/

/-- A session that listens to a generation notices an operation, unless it is a message of another
generation. -/
def Operation.heardBy (generation : Nat) : Operation → Bool
  | .handle message _ => message.generation == generation
  | _ => true

/-- A message of another generation changes nothing. -/
theorem apply_of_unheard (listens : view.generation = some generation)
    (unheard : operation.heardBy generation = false) : view.apply operation = view := by
  cases operation with
  | handle message now =>
    have other : message.generation ≠ generation := by simpa [Operation.heardBy] using unheard
    have stale : view.generation ≠ some message.generation := fun accepts =>
      other (Option.some.inj (accepts.symm.trans listens))
    rw [apply, handle_of_stale stale]
  | _ => cases unheard

/-- The operations that a session notices. -/
def heard (generation : Nat) (operations : List Operation) : List Operation :=
  operations.filter (Operation.heardBy generation)

/-- The answer to a message of a generation: the result of the merge if a page was merged. -/
def Moment.answer? (generation : Nat) (moment : Moment) : Option (Option MergeResult) :=
  match moment.operation with
  | .handle message now =>
    if message.generation = generation then some (moment.view.handle message now).2 else none
  | _ => none

/-- What a run answers to the messages of a generation, in order. -/
def answers (generation : Nat) (view : View) (operations : List Operation) :
    List (Option MergeResult) :=
  (view.moments operations).filterMap (Moment.answer? generation)

/-- Only what is noticed is answered. -/
theorem answers_eq (generation : Nat) (view : View) (operations : List Operation) :
    view.answers generation operations =
      ((view.moments operations).filter (·.operation.heardBy generation)).filterMap
        (Moment.answer? generation) := by
  rw [answers, List.filterMap_filter]
  refine List.filterMap_congr fun moment _ => ?_
  unfold Moment.answer?
  cases moment.operation with
  | handle message now => simp [Operation.heardBy]
  | _ => rfl

namespace Follows

variable {policy : CapacityPolicy} {window : Window}

/-- A session goes the same way without the messages of other generations. -/
theorem run_heard (follows : view.Follows generation policy window)
    (stays : StaysInSession operations) :
    view.run (heard generation operations) = view.run operations := by
  induction operations generalizing view policy window with
  | nil => rfl
  | cons operation rest ih =>
    obtain ⟨first, later⟩ := stays.cons
    have same := ih (follows.apply first) later
    rw [heard, List.filter_cons, run_cons]
    cases hears : operation.heardBy generation with
    | true => exact same
    | false =>
      rw [apply_of_unheard follows.listens hears] at same ⊢
      exact same

/-- A session passes through the same views without what it does not notice. -/
theorem moments_heard (follows : view.Follows generation policy window)
    (stays : StaysInSession operations) :
    view.moments (heard generation operations) =
      (view.moments operations).filter (·.operation.heardBy generation) := by
  induction operations generalizing view policy window with
  | nil => rfl
  | cons operation rest ih =>
    obtain ⟨first, later⟩ := stays.cons
    have same := ih (follows.apply first) later
    rw [heard, List.filter_cons, moments, List.filter_cons]
    cases hears : operation.heardBy generation with
    | true => exact congrArg _ same
    | false =>
      rw [apply_of_unheard follows.listens hears] at same ⊢
      exact same

end Follows

/-- A session that begins with a reset begins like the first session of a new view. -/
theorem WellFormed.reset_eq (holds : view.WellFormed) (generation : Nat) :
    view.reset generation =
      View.enter
        { new view.capacity view.policy view.marks.lifetime with filter := view.filter }
        generation := by
  have inside : Limits.capacity.holds view.capacity = true :=
    Limits.holds_iff.mpr ⟨holds.one_le_capacity, holds.capacity_le⟩
  rw [new, Limits.clamp_of_holds inside]
  rfl

/-- After a reset a view does what a new view with the same capacity, policy, lifetime of marks and
filter does that enters the same session, and gets no message of another generation: it comes to the
same state, by way of the same states, and its answers to the messages of the session's generation
are the same. -/
theorem reset_run (capacity : Nat) (policy : CapacityPolicy) (lifetime : Nat)
    (earlier : List Operation) (generation : Nat) (operations : List Operation)
    (stays : StaysInSession operations) :
    let view := (new capacity policy lifetime).run earlier
    let fresh := { new view.capacity view.policy view.marks.lifetime with filter := view.filter }
    (view.reset generation).run operations =
        (fresh.enter generation).run (heard generation operations) ∧
      (view.reset generation).answers generation operations =
        (fresh.enter generation).answers generation (heard generation operations) ∧
      ((view.reset generation).moments operations).filter (·.operation.heardBy generation) =
        (fresh.enter generation).moments (heard generation operations) := by
  intro view fresh
  have holds : view.WellFormed := (wellFormed_new capacity policy lifetime).run earlier
  have begun : view.reset generation = fresh.enter generation := holds.reset_eq generation
  have follows := Follows.enter fresh generation
  have moments := follows.moments_heard stays
  refine ⟨?_, ?_, ?_⟩
  · rw [begun, follows.run_heard stays]
  · rw [begun, answers_eq, ← moments]
    rfl
  · rw [begun, moments]

/-- A view with rows and warnings of one generation is reset for another, and late messages of the
first arrive. -/
theorem reset_run_late :
    let entry : Entry := ⟨"A", 1, some "2024-05-01T10:00:01Z", some "a.example", []⟩
    let late : Entry := ⟨"A", 2, some "2024-05-01T10:00:02Z", some "b.example", []⟩
    let earlier : List Operation :=
      [.enter 1, .handle (.page 1 "A" [entry]) 0, .handle (.fetchFailed 1 "B" "refused") 1,
        .setFilter (.singleSource "A")]
    let noticed : List Operation := [.handle (.page 2 "A" [entry]) 6, .applyFilter]
    let operations : List Operation :=
      .handle (.page 1 "A" [late]) 5 :: noticed ++ [.handle (.stopped 1) 7]
    let view := (new 3 .reset 10).run earlier
    let fresh := { new view.capacity view.policy view.marks.lifetime with filter := view.filter }
    StaysInSession operations ∧
      (view.reset 2).run operations = (fresh.enter 2).run noticed ∧
      (view.reset 2).answers 2 operations = (fresh.enter 2).answers 2 noticed := by
  intro entry late earlier noticed operations view fresh
  have stays : StaysInSession operations := by decide
  have ran := reset_run 3 .reset 10 earlier 2 operations stays
  exact ⟨stays, ran.1, ran.2.1⟩

end View

end QueryTail
