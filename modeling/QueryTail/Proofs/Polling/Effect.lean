import QueryTail.Proofs.Polling.Step

/-!
# What events mean for a run

Whoever acts in an event, it means one of five things for the run of a generation: nothing, that it
is told to stop, that nobody listens any more, that messages of it are taken, or that it goes on.
This is its `Effect` on the run. What is kept by every effect is kept by everything that happens.
-/

namespace QueryTail.Polling

/-- An event that happened: the system that it happened in, and what it left behind. -/
structure Occurrence where
  before : System
  event : Event
  outcome : Outcome

namespace Occurrence

/-- The messages that the run of a generation sent. -/
def sentBy (generation : Nat) (occurrence : Occurrence) : List Progress :=
  if occurrence.event.run? = some generation then occurrence.outcome.sent.toList else []

/-- The messages that were taken while the run of a generation was the current one. -/
def takenFrom (generation : Nat) (occurrence : Occurrence) : List Progress :=
  if occurrence.before.current = some generation then occurrence.outcome.taken else []

end Occurrence

/-- What something that happened made of a run. -/
inductive Effect (occurrence : Occurrence) (run : Run) : Run → Prop where
  | keep (others : occurrence.event.run? ≠ some run.generation)
      (taken : occurrence.takenFrom run.generation = [])
      (listened : occurrence.event.endsListening = true →
        occurrence.before.current ≠ some run.generation) :
      Effect occurrence run run
  | cancel (event : occurrence.event = .cancel) (taken : occurrence.outcome.taken = [])
      (current : occurrence.before.current = some run.generation) :
      Effect occurrence run { run with cancelled := true }
  | stop (event : occurrence.event.endsListening = true) (taken : occurrence.outcome.taken = [])
      (current : occurrence.before.current = some run.generation) :
      Effect occurrence run { run with cancelled := true, heard := false, queue := [] }
  | take {budget : Nat} (event : occurrence.event = .take budget)
      (taken : occurrence.outcome.taken = run.queue.take budget)
      (current : occurrence.before.current = some run.generation) :
      Effect occurrence run { run with queue := run.queue.drop budget }
  | move {base : System} {message : Option Progress} {next : Phase}
      (move : Move occurrence.before run occurrence.event base message next)
      (outcome : occurrence.outcome = base.settle (run.after message next)) :
      Effect occurrence run (run.after message next).1

/-- A change of the run of a generation that is an effect of what happened. -/
theorem rel_map {occurrence : Occurrence} {change : Run → Run} {held : Option Run}
    (effect : ∀ run, held = some run → Effect occurrence run (change run)) :
    Option.Rel (Effect occurrence) held (held.map change) := by
  cases held with
  | none => exact .none
  | some run => exact .some (effect run rfl)

/-- What is no action of a run, takes no messages of it and does not stop it, leaves the run as it
is. -/
theorem rel_keep {occurrence : Occurrence} {generation : Nat} (system : System)
    (others : occurrence.event.run? ≠ some generation) (taken : occurrence.takenFrom generation = [])
    (listened : occurrence.event.endsListening = true →
      occurrence.before.current ≠ some generation) :
    Option.Rel (Effect occurrence) (system.run? generation) (system.run? generation) := by
  cases found : system.run? generation with
  | none => exact .none
  | some run =>
    obtain rfl := System.generation_of_run? found
    exact .some (.keep others taken listened)

/-- Taking messages has its effect on every run. -/
theorem effect_takeMessages (system : System) (budget generation : Nat) :
    Option.Rel
      (Effect ⟨system, .take budget, (system.takeMessages budget).1, none,
        (system.takeMessages budget).2⟩)
      (system.run? generation) ((system.takeMessages budget).1.run? generation) := by
  rcases system.takeMessages_cases budget with ⟨taker, current, found, takes⟩ | ⟨nobody, takes⟩
  · rw [takes]
    dsimp only
    by_cases same : generation = taker.generation
    · subst same
      rw [System.run?_setRun_self { taker with queue := taker.queue.drop budget } found, found]
      exact .some (.take rfl rfl current)
    · rw [System.run?_setRun_of_ne { taker with queue := taker.queue.drop budget } same]
      refine rel_keep system nofun (if_neg ?_) nofun
      simpa [current] using Ne.symm same
  · rw [takes]
    exact rel_keep system nofun (ite_self _) nofun

/-- An action of a run has its effect on every run. -/
theorem Move.effect {system base : System} {run : Run} {event : Event} {message : Option Progress}
    {next : Phase} (move : Move system run event base message next)
    (found : system.run? run.generation = some run) (generation : Nat) :
    Option.Rel (Effect ⟨system, event, base.settle (run.after message next)⟩)
      (system.run? generation)
      ((base.settle (run.after message next)).system.run? generation) := by
  by_cases same : generation = run.generation
  · subst same
    rw [move.run?_self found, found]
    exact .some (.move move rfl)
  · rw [move.run?_of_ne same]
    refine rel_keep system ?_ (ite_self _) (by simp [move.endsListening_event])
    simpa [move.run?_event] using Ne.symm same

/-- Stopping the current run has its effect on every run. -/
theorem effect_stopCurrent {occurrence : Occurrence} {generation : Nat}
    (acts : occurrence.event.run? = none) (ends : occurrence.event.endsListening = true)
    (taken : occurrence.outcome.taken = []) :
    Option.Rel (Effect occurrence) (occurrence.before.run? generation)
      (occurrence.before.stopCurrent.run? generation) := by
  rw [System.run?_stopCurrent]
  split
  case isTrue current =>
    refine rel_map fun run found => ?_
    obtain rfl := System.generation_of_run? found
    exact .stop ends taken current
  case isFalse other =>
    exact rel_keep _ (by simp [acts]) (if_neg other) fun _ => other

/-- An event has its effect on the run of each generation, unless it starts that run. -/
theorem Transition.effect {system : System} {event : Event} {outcome : Outcome}
    (transition : Transition system event outcome) (generation : Nat) :
    (∃ nodes timeout, event = .start nodes timeout ∧ generation = system.generation + 1) ∨
      Option.Rel (Effect ⟨system, event, outcome⟩) (system.run? generation)
        (outcome.system.run? generation) := by
  cases transition with
  | start nodes timeout =>
    by_cases new : generation = system.generation + 1
    · exact .inl ⟨nodes, timeout, rfl, new⟩
    · refine .inr ?_
      dsimp only
      rw [System.run?_startRun_of_ne new]
      exact effect_stopCurrent rfl rfl rfl
  | cancel =>
    refine .inr ?_
    dsimp only
    rw [System.run?_cancelCurrent]
    split
    case isTrue current =>
      refine rel_map fun run found => ?_
      obtain rfl := System.generation_of_run? found
      exact .cancel rfl rfl current
    case isFalse other => exact rel_keep system nofun (if_neg other) nofun
  | stop => exact .inr (effect_stopCurrent rfl rfl rfl)
  | take budget => exact .inr (effect_takeMessages system budget generation)
  | release busy => exact .inr (rel_keep system nofun (ite_self _) nofun)
  | answer result silent => exact .inr (rel_keep system nofun (ite_self _) nofun)
  | move found move => exact .inr (move.effect found generation)

/-- Where the run of a generation comes from: it was just started, or it was there before and the
event had its effect on it. -/
theorem Transition.run?_after {system : System} {event : Event} {outcome : Outcome}
    {generation : Nat} {after : Run} (transition : Transition system event outcome)
    (found : outcome.system.run? generation = some after) :
    (∃ nodes timeout, event = .start nodes timeout ∧ generation = system.generation + 1 ∧
      after = .begin generation nodes timeout) ∨
    ∃ run, system.run? generation = some run ∧ Effect ⟨system, event, outcome⟩ run after := by
  rcases transition.effect generation with ⟨nodes, timeout, rfl, rfl⟩ | effect
  · cases transition with
    | start nodes timeout =>
      rw [System.run?_startRun_new] at found
      exact .inl ⟨nodes, timeout, rfl, rfl, (Option.some.inj found).symm⟩
    | move found move => cases move
  · rw [found] at effect
    cases held : system.run? generation with
    | none =>
      rw [held] at effect
      cases effect
    | some run =>
      rw [held] at effect
      cases effect with
      | some effect => exact .inr ⟨run, rfl, effect⟩

/-- A run that is there stays there, and the event has its effect on it. -/
theorem Transition.run?_before {system : System} {event : Event} {outcome : Outcome}
    {generation : Nat} {run : Run} (transition : Transition system event outcome)
    (found : system.run? generation = some run) (old : generation ≤ system.generation) :
    ∃ after, outcome.system.run? generation = some after ∧
      Effect ⟨system, event, outcome⟩ run after := by
  rcases transition.effect generation with ⟨_, _, -, new⟩ | effect
  · omega
  · rw [found] at effect
    cases held : outcome.system.run? generation with
    | none =>
      rw [held] at effect
      cases effect
    | some after =>
      rw [held] at effect
      cases effect with
      | some effect => exact ⟨after, rfl, effect⟩

/-! ### What effects keep -/

namespace Occurrence

variable {occurrence : Occurrence} {generation : Nat}

/-- What is not an action of a run sends nothing. -/
theorem sentBy_eq_nil (others : occurrence.event.run? = none) :
    occurrence.sentBy generation = [] :=
  if_neg (by simp [others])

/-- Where nothing is taken, nothing is taken from a run. -/
theorem takenFrom_eq_nil (taken : occurrence.outcome.taken = []) :
    occurrence.takenFrom generation = [] := by
  rw [takenFrom, taken, ite_self]

end Occurrence

/-- What ends listening is not an action of a run. -/
theorem Event.run?_of_endsListening {event : Event} (ends : event.endsListening = true) :
    event.run? = none := by
  cases event <;> first | rfl | cases ends

/-- What ends listening tells the run to stop. -/
theorem Event.tellsToStop_of_endsListening {event : Event} (ends : event.endsListening = true) :
    event.tellsToStop = true := by
  cases event <;> first | rfl | cases ends

namespace Effect

variable {occurrence : Occurrence} {run after : Run}

/-- Nothing that happens to a run changes its nodes. -/
theorem nodes_eq (effect : Effect occurrence run after) : after.nodes = run.nodes := by
  cases effect with
  | move => exact run.nodes_after _ _
  | _ => rfl

/-- Somebody listens to a run as long as it is not stopped. -/
theorem heard_iff (effect : Effect occurrence run after) :
    after.heard = true ↔ run.heard = true ∧
      (occurrence.before.current = some run.generation →
        occurrence.event.endsListening = false) := by
  cases effect with
  | keep others taken listened => simpa using fun _ => mt (fun ends => listened ends)
  | cancel event => simp [event, Event.endsListening]
  | stop event taken current => simp [event, current]
  | take event => simp [event, Event.endsListening]
  | move move => simp [move.endsListening_event]

/-- A run that was told to stop was told so before or just now. -/
theorem cancelled_of_after (effect : Effect occurrence run after)
    (cancelled : after.cancelled = true) :
    run.cancelled = true ∨ occurrence.before.current = some run.generation ∧
      occurrence.event.tellsToStop = true := by
  cases effect with
  | keep => exact .inl cancelled
  | cancel event taken current => exact .inr ⟨current, by rw [event]; rfl⟩
  | stop event taken current =>
    exact .inr ⟨current, Event.tellsToStop_of_endsListening event⟩
  | take => exact .inl cancelled
  | move => exact .inl (by rwa [run.cancelled_after] at cancelled)

end Effect

end QueryTail.Polling
