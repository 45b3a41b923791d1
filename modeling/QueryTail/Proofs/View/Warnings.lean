import Mathlib.Data.List.DropRight
import QueryTail.Proofs.View.Step

/-!
# The history of warnings

A view keeps its last warnings and drops the oldest one whenever there would be too many. What it
keeps is told by the operations alone: of the failed fetches that were heard since the warnings were
last forgotten, the last thousand in the order in which they came (`warnings_run`).

Two things about the past count. A failure is heard if its generation is the one of the session at
that time, which the latest beginning or end of a session decides (`listening`). And a reset forgets
the warnings, where a session that merely begins or ends does not.
-/

namespace QueryTail

namespace View

variable {view : View} {operation : Operation} {operations : List Operation}
  {generation : Option Nat} {warning : String} {told : List String}

/-! ### What operations tell -/

namespace Operation

/-- The operation makes the view forget its warnings. -/
def forgets : Operation → Bool
  | .reset _ => true
  | _ => false

/-- The generation that is listened to after the operation. Outside a session there is none. -/
def listensTo (generation : Option Nat) : Operation → Option Nat
  | .enter next | .reset next => some next
  | .exit => none
  | _ => generation

/-- The text of the failed fetch that the operation tells, if its generation is listened to. -/
def failure? (generation : Option Nat) : Operation → Option String
  | .handle (.fetchFailed sender node message) _ =>
    if generation = some sender then some s!"Tail warning from {node}: {message}" else none
  | _ => none

end Operation

/-- The generation that is listened to after operations on a new view. -/
def listening (operations : List Operation) : Option Nat :=
  operations.foldl Operation.listensTo none

/-- The texts of the failed fetches that operations tell, in order, given the generation that is
listened to at first. -/
def failures : Option Nat → List Operation → List String
  | _, [] => []
  | generation, operation :: rest =>
    (operation.failure? generation).toList ++ failures (operation.listensTo generation) rest

/-- The texts of the failed fetches since the run began or, if it forgot its warnings, since it last
did. -/
def failuresSinceReset (operations : List Operation) : List String :=
  let keeps (operation : Operation) := !operation.forgets
  failures (listening (operations.rdropWhile keeps)) (operations.rtakeWhile keeps)

/-- A last operation decides what is listened to from what was listened to before. -/
theorem listening_concat (operations : List Operation) (operation : Operation) :
    listening (operations ++ [operation]) = operation.listensTo (listening operations) :=
  List.foldl_concat _ _ _ _

/-- A last operation adds its failure, if it tells one that is listened to. -/
theorem failures_concat (generation : Option Nat) (operations : List Operation)
    (operation : Operation) :
    failures generation (operations ++ [operation]) =
      failures generation operations ++
        (operation.failure? (operations.foldl Operation.listensTo generation)).toList := by
  induction operations generalizing generation with
  | nil => exact List.append_nil _
  | cons first rest ih =>
    rw [List.cons_append, failures, ih, failures, List.append_assoc]
    rfl

/-- After a reset there are no failures. -/
theorem failuresSinceReset_concat_of_forgets (forgets : operation.forgets = true) :
    failuresSinceReset (operations ++ [operation]) = [] := by
  unfold failuresSinceReset
  dsimp only
  rw [List.rtakeWhile_concat_neg _ _ _ (by simp [forgets]), failures]

/-- Without a reset, the last operation adds its failure to those since the latest reset. -/
theorem failuresSinceReset_concat (keeps : operation.forgets = false) :
    failuresSinceReset (operations ++ [operation]) =
      failuresSinceReset operations ++ (operation.failure? (listening operations)).toList := by
  unfold failuresSinceReset
  dsimp only
  rw [List.rtakeWhile_concat_pos _ _ _ (by simp [keeps]),
    List.rdropWhile_concat_pos _ _ _ (by simp [keeps]), failures_concat, listening,
    ← List.foldl_append, List.rdropWhile_append_rtakeWhile]
  rfl

/-! ### One operation -/

/-- What a view hears and has heard. -/
def heardOf (view : View) : Option Nat × List String :=
  (view.generation, view.warnings)

/-- A page leaves alone what the view hears and has heard. -/
theorem heardOf_acceptPage (view : View) (node : String) (page : List Entry) (now : Nat) :
    (view.acceptPage node page now).1.heardOf = view.heardOf := by
  cases tails : view.window with
  | none => rw [acceptPage_of_none tails]
  | some window =>
    cases new : (window.merge page).2.isNoop with
    | true => rw [acceptPage_of_isNoop tails new]
    | false =>
      rw [acceptPage_of_not_isNoop tails new]
      exact (congrArg heardOf (view.unmarked_takePage window page now) :)

/-- A new capacity leaves alone what the view hears and has heard. -/
theorem heardOf_setCapacity (view : View) (capacity : Nat) :
    (view.apply (.setCapacity capacity)).heardOf = view.heardOf := by
  dsimp only [View.apply]
  cases inside : Limits.capacity.holds capacity with
  | false => rw [setCapacity_of_outside inside]
  | true =>
    cases tails : view.window with
    | none =>
      rw [setCapacity_of_none inside tails]
      rfl
    | some window =>
      rw [setCapacity_of_some inside tails]
      rfl

/-- A message changes what is heard if it is the failure of a fetch that is listened to. -/
theorem heardOf_handle (view : View) (message : Progress) (now : Nat) :
    (view.handle message now).1.heardOf =
      match (Operation.handle message now).failure? view.generation with
      | some warning => (view.warn warning).heardOf
      | none => view.heardOf := by
  by_cases accepts : view.generation = some message.generation
  · cases message with
    | page sender node page =>
      have listens : view.generation = some sender := accepts
      rw [handle_page listens]
      exact view.heardOf_acceptPage node page now
    | fetchFailed sender node message =>
      have listens : view.generation = some sender := accepts
      rw [Operation.failure?, if_pos listens, handle, if_pos accepts]
      rfl
    | started | stopped =>
      rw [handle, if_pos accepts]
      rfl
  · rw [handle_of_stale accepts]
    cases message with
    | fetchFailed sender node message =>
      have stale : ¬view.generation = some sender := accepts
      rw [Operation.failure?, if_neg stale]
    | started | page | stopped => rfl

/-- A view listens to what its operations say. -/
theorem generation_apply (view : View) (operation : Operation) :
    (view.apply operation).generation = operation.listensTo view.generation := by
  cases operation with
  | setCapacity capacity => exact (congrArg Prod.fst (view.heardOf_setCapacity capacity) :)
  | handle message now =>
    have heard := view.heardOf_handle message now
    split at heard <;> exact (congrArg Prod.fst heard :)
  | _ => rfl

/-- A reset leaves no warnings. -/
theorem warnings_apply_of_forgets (forgets : operation.forgets = true) :
    (view.apply operation).warnings = [] := by
  cases operation with
  | reset generation => rfl
  | _ => cases forgets

/-- An operation that tells of no failure and forgets nothing leaves the warnings alone. -/
theorem warnings_apply_of_silent (keeps : operation.forgets = false)
    (silent : operation.failure? view.generation = none) :
    (view.apply operation).warnings = view.warnings := by
  cases operation with
  | reset generation => cases keeps
  | setCapacity capacity => exact (congrArg Prod.snd (view.heardOf_setCapacity capacity) :)
  | handle message now =>
    have heard := view.heardOf_handle message now
    rw [silent] at heard
    exact (congrArg Prod.snd heard :)
  | _ => rfl

/-- A failure that is listened to is a warning. -/
theorem warnings_apply_of_failure (failed : operation.failure? view.generation = some warning) :
    (view.apply operation).warnings = (view.warn warning).warnings := by
  cases operation with
  | handle message now =>
    have heard := view.heardOf_handle message now
    rw [failed] at heard
    exact (congrArg Prod.snd heard :)
  | _ => cases failed

/-- The last of some texts with one more are the last of all of them. -/
theorem warnings_warn (kept : view.warnings = told.rtake maxWarnings) :
    (view.warn warning).warnings = (told ++ [warning]).rtake maxWarnings := by
  have limit : maxWarnings = 999 + 1 := rfl
  have shorter : (if maxWarnings ≤ view.warnings.length then view.warnings.tail
      else view.warnings) = told.rtake 999 := by
    rw [kept, List.rtake, List.rtake, List.length_drop, List.tail_drop]
    split
    · next full =>
      have next : told.length - maxWarnings + 1 = told.length - 999 := by omega
      rw [next]
    · next room =>
      have none : told.length - maxWarnings = told.length - 999 := by omega
      rw [none]
  have last := List.rtake_concat_succ told 999 warning
  rw [limit, last, ← shorter]
  rfl

/-! ### Runs -/

/-- What a view hears and has heard is what the operations so far tell. -/
structure Remembers (operations : List Operation) (view : View) : Prop where
  generation : view.generation = listening operations
  warnings : view.warnings = (failuresSinceReset operations).rtake maxWarnings

/-- An operation keeps what a view remembers in step with the operations. -/
theorem Remembers.apply (remembers : Remembers operations view) (operation : Operation) :
    Remembers (operations ++ [operation]) (view.apply operation) where
  generation := by rw [generation_apply, remembers.generation, listening_concat]
  warnings := by
    cases keeps : operation.forgets with
    | true =>
      rw [warnings_apply_of_forgets keeps, failuresSinceReset_concat_of_forgets keeps,
        List.rtake_nil]
    | false =>
      rw [failuresSinceReset_concat keeps, ← remembers.generation]
      cases failed : operation.failure? view.generation with
      | none =>
        rw [warnings_apply_of_silent keeps failed, Option.toList_none, List.append_nil]
        exact remembers.warnings
      | some warning =>
        rw [warnings_apply_of_failure failed, Option.toList_some]
        exact warnings_warn remembers.warnings

/-- Every run of a new view remembers its operations. -/
theorem remembers_run (capacity : Nat) (policy : CapacityPolicy) (lifetime : Nat)
    (operations : List Operation) :
    Remembers operations ((new capacity policy lifetime).run operations) := by
  induction operations using List.reverseRecOn with
  | nil => exact ⟨rfl, rfl⟩
  | append_singleton earlier operation ih =>
    rw [run_concat]
    exact ih.apply operation

/-- After any operations a view has the last thousand of the warnings about failed fetches that were
heard since the run began or its latest reset, in the order in which they came, and all of them if
there were no more. What is heard is what tells of the generation of the session, and no other
operation but a reset changes the warnings. -/
theorem warnings_run (capacity : Nat) (policy : CapacityPolicy) (lifetime : Nat)
    (operations : List Operation) :
    let view := (new capacity policy lifetime).run operations
    let told := failuresSinceReset operations
    view.warnings <:+ told ∧ view.warnings.length = min told.length 1000 ∧
      view.generation = listening operations ∧ view.isTailing = (listening operations).isSome ∧
      ∀ operation : Operation, operation.forgets = false →
        operation.failure? (listening operations) = none →
          (view.apply operation).warnings = view.warnings := by
  intro view told
  have remembers := remembers_run capacity policy lifetime operations
  have holds := (wellFormed_new capacity policy lifetime).run operations
  have kept : view.warnings = told.drop (told.length - 1000) := remembers.warnings
  refine ⟨?_, ?_, remembers.generation, ?_, ?_⟩
  · rw [kept]
    exact List.drop_suffix _ _
  · rw [kept, List.length_drop]
    omega
  · rw [← remembers.generation]
    exact holds.tailing
  · intro operation keeps silent
    rw [← remembers.generation] at silent
    exact warnings_apply_of_silent keeps silent

/-- Of four failures after a reset two are not heard: one of the generation before, and one between
two sessions. -/
theorem warnings_run_interrupted :
    let operations : List Operation :=
      [.enter 1, .handle (.fetchFailed 1 "A" "gone") 0, .reset 2,
        .handle (.fetchFailed 1 "A" "late") 1, .handle (.fetchFailed 2 "B" "refused") 2, .exit,
        .handle (.fetchFailed 2 "B" "ended") 3, .enter 3, .handle (.fetchFailed 3 "A" "slow") 4]
    let view := (new 3 .reset 10).run operations
    let resize : Operation := .setCapacity 5
    view.warnings = ["Tail warning from B: refused", "Tail warning from A: slow"] ∧
      resize.forgets = false ∧ resize.failure? (listening operations) = none ∧
      (view.apply resize).warnings = view.warnings := by
  intro operations view resize
  have told : failuresSinceReset operations =
      ["Tail warning from B: refused", "Tail warning from A: slow"] := by decide
  obtain ⟨last, count, -, -, quiet⟩ := warnings_run 3 .reset 10 operations
  rw [told] at last count
  exact ⟨last.eq_of_length count, rfl, rfl, quiet resize rfl rfl⟩

end View

end QueryTail
