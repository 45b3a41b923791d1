import QueryTail.Polling.System

/-!
# What events do

What an event can do is said once, by `Transition`; of the actions of a run `Move` says it. Whatever
holds in every system is proved from these, by cases.
-/

namespace QueryTail.Polling

/-! ### What events do -/

namespace Event

/-- The generation of the run that an event is an action of. -/
def run? : Event → Option Nat
  | .advance generation => some generation
  | .receive generation => some generation
  | .expire generation => some generation
  | .notice generation => some generation
  | _ => none

/-- The event tells the current run to stop. -/
def tellsToStop : Event → Bool
  | .start _ _ => true
  | .cancel => true
  | .stop => true
  | _ => false

/-- After the event nobody listens any more to the run that was current. -/
def endsListening : Event → Bool
  | .start _ _ => true
  | .stop => true
  | _ => false

end Event

namespace Run

/-- A run after an action that brings it to another phase, and the message that it sends with it. -/
def after (run : Run) : Option Progress → Phase → Run × Option Progress
  | none, next => ({ run with phase := next }, none)
  | some message, next => run.send message next

end Run

/-- The action of a run by an event: what becomes of the rest of the system, the message that the
run has to send, and the phase that it comes to. -/
inductive Move (system : System) (run : Run) :
    Event → System → Option Progress → Phase → Prop where
  | tell (phase : run.phase = .starting) :
      Move system run (.advance run.generation) system
        (some (.started run.generation run.nodes.length)) (.asking run.nodes)
  | obey {rest : List String} (phase : run.phase = .asking rest) (cancelled : run.cancelled) :
      Move system run (.advance run.generation) system none .stopping
  | wake (phase : run.phase = .asking []) :
      Move system run (.advance run.generation) system none (.asking run.nodes)
  | turn {node : String} {rest : List String} (phase : run.phase = .asking (node :: rest)) :
      Move system run (.advance run.generation) system none (.claiming node rest)
  | refuse {node : String} {rest : List String} (phase : run.phase = .claiming node rest)
      (claimed : node ∈ system.claimed) :
      Move system run (.advance run.generation) system none
        (.telling node (.error (.stillRunning node)) rest)
  | claim {node : String} {rest : List String} (phase : run.phase = .claiming node rest)
      (free : node ∉ system.claimed) :
      Move system run (.advance run.generation) (system.dispatch node) none
        (.fetching node system.tickets rest)
  | receive {node : String} {ticket : Nat} {rest : List String} {answer : Option FetchResult}
      (phase : run.phase = .fetching node ticket rest)
      (answered : (ticket, answer) ∈ system.answers) :
      Move system run (.receive run.generation) (system.forget ticket) none
        (.telling node (System.resultOf node answer) rest)
  | expire {node : String} {ticket : Nat} {rest : List String}
      (phase : run.phase = .fetching node ticket rest) :
      Move system run (.expire run.generation) (system.forget ticket) none
        (.telling node (.error (.timeout node run.timeout)) rest)
  | notice {node : String} {ticket : Nat} {rest : List String}
      (phase : run.phase = .fetching node ticket rest) (cancelled : run.cancelled) :
      Move system run (.notice run.generation) (system.forget ticket) none .stopping
  | report {node : String} {result : FetchResult} {rest : List String}
      (phase : run.phase = .telling node result rest) :
      Move system run (.advance run.generation) system (some (run.report node result))
        (.asking rest)
  | finish (phase : run.phase = .stopping) :
      Move system run (.advance run.generation) system (some (.stopped run.generation)) .ended

/-- What an event can do. -/
inductive Transition (system : System) : Event → Outcome → Prop where
  | start (nodes : List String) (timeout : Nat) :
      Transition system (.start nodes timeout) ⟨system.startRun nodes timeout, none, []⟩
  | cancel : Transition system .cancel ⟨system.cancelCurrent, none, []⟩
  | stop : Transition system .stop ⟨system.stopCurrent, none, []⟩
  | take (budget : Nat) :
      Transition system (.take budget)
        ⟨(system.takeMessages budget).1, none, (system.takeMessages budget).2⟩
  | release {worker : Worker} (busy : worker ∈ system.busy) :
      Transition system (.release worker.ticket) ⟨system.letGo worker, none, []⟩
  | answer {ticket : Nat} (result : Option FetchResult) (silent : ticket ∈ system.silent) :
      Transition system (.answer ticket result) ⟨system.record ticket result, none, []⟩
  | move {run : Run} {event : Event} {base : System} {message : Option Progress} {next : Phase}
      (found : system.run? run.generation = some run)
      (move : Move system run event base message next) :
      Transition system event (base.settle (run.after message next))

namespace System

/-- The run of a generation has that generation. -/
theorem generation_of_run? {system : System} {generation : Nat} {run : Run}
    (found : system.run? generation = some run) : run.generation = generation := by
  have matching := List.find?_some found
  exact beq_iff_eq.mp matching

/-- What a run does when it goes on is one of its actions. -/
theorem transition_of_advanceRun {system : System} {run : Run} {outcome : Outcome}
    (found : system.run? run.generation = some run)
    (happens : system.advanceRun run = some outcome) :
    Transition system (.advance run.generation) outcome := by
  unfold advanceRun at happens
  split at happens
  case h_1 phase =>
    cases happens
    exact .move found (.tell phase)
  case h_2 rest phase =>
    split at happens
    case isTrue cancelled =>
      cases happens
      exact .move found (.obey phase cancelled)
    case isFalse =>
      split at happens
      · cases happens
        exact .move found (.wake phase)
      · cases happens
        exact .move found (.turn phase)
  case h_3 node rest phase =>
    unfold ask at happens
    split at happens
    case isTrue claimed =>
      cases happens
      exact .move found (.refuse phase (List.contains_iff_mem.mp claimed))
    case isFalse free =>
      cases happens
      exact .move found (.claim phase fun claimed => free (List.contains_iff_mem.mpr claimed))
  case h_4 => cases happens
  case h_5 node result rest phase =>
    cases happens
    exact .move found (.report phase)
  case h_6 phase =>
    cases happens
    exact .move found (.finish phase)
  case h_7 => cases happens

/-- An event that can happen does one of the things that events do. -/
theorem transition_of_step {system : System} {event : Event} {outcome : Outcome}
    (happens : system.step event = some outcome) : Transition system event outcome := by
  cases event with
  | start nodes timeout =>
    cases happens
    exact .start nodes timeout
  | cancel =>
    cases happens
    exact .cancel
  | stop =>
    cases happens
    exact .stop
  | take budget =>
    cases happens
    exact .take budget
  | advance generation =>
    obtain ⟨run, found, acts⟩ := Option.bind_eq_some_iff.mp happens
    obtain rfl := generation_of_run? found
    exact transition_of_advanceRun found acts
  | release ticket =>
    obtain ⟨worker, found, rfl⟩ := Option.map_eq_some_iff.mp happens
    have matching := List.find?_some found
    obtain rfl : worker.ticket = ticket := beq_iff_eq.mp matching
    exact .release (List.mem_of_find?_eq_some found)
  | answer ticket result =>
    simp only [step] at happens
    split at happens
    case isTrue silent =>
      cases happens
      exact .answer result (List.contains_iff_mem.mp silent)
    case isFalse => cases happens
  | receive generation =>
    obtain ⟨run, found, acts⟩ := Option.bind_eq_some_iff.mp happens
    obtain rfl := generation_of_run? found
    split at acts
    case h_1 node ticket rest phase =>
      obtain ⟨answer, answered, acts⟩ := Option.bind_eq_some_iff.mp acts
      have matching := List.find?_some answered
      obtain rfl : answer.1 = ticket := beq_iff_eq.mp matching
      cases acts
      exact .move found (.receive phase (List.mem_of_find?_eq_some answered))
    case h_2 => cases acts
  | expire generation =>
    obtain ⟨run, found, acts⟩ := Option.bind_eq_some_iff.mp happens
    obtain rfl := generation_of_run? found
    split at acts
    case h_1 node ticket rest phase =>
      cases acts
      exact .move found (.expire phase)
    case h_2 => cases acts
  | notice generation =>
    obtain ⟨run, found, acts⟩ := Option.bind_eq_some_iff.mp happens
    obtain rfl := generation_of_run? found
    split at acts
    case h_1 node ticket rest phase =>
      split at acts
      case isTrue cancelled =>
        cases acts
        exact .move found (.notice phase cancelled)
      case isFalse => cases acts
    case h_2 => cases acts

/-! ### What becomes of the runs -/

/-- A change of the run of one generation leaves the runs of other generations alone. -/
theorem run?_change (system : System) {changed : Nat} (change : Run → Run)
    (keeps : ∀ run : Run, run.generation = changed → (change run).generation = changed)
    (generation : Nat) :
    { system with
      runs := system.runs.map fun run : Run =>
        if run.generation = changed then change run else run }.run? generation =
      if changed = generation then (system.run? generation).map change
      else system.run? generation := by
  have sameTest : ((fun run : Run => run.generation == generation) ∘ fun run : Run =>
      if run.generation = changed then change run else run) =
      fun run => run.generation == generation := by
    funext run
    by_cases isChanged : run.generation = changed
    · simp [isChanged, keeps run isChanged]
    · simp [isChanged]
  unfold run?
  rw [List.find?_map, sameTest]
  cases found : system.run? generation with
  | none =>
    rw [run?] at found
    simp [found]
  | some run =>
    have known := generation_of_run? found
    rw [run?] at found
    rw [found, Option.map_some, Option.map_some, known]
    split
    case isTrue same => rw [if_pos same.symm]
    case isFalse other => rw [if_neg fun same => other same.symm]

/-- Putting a run in its place brings it there. -/
theorem run?_setRun_self {system : System} {held : Run} (run : Run)
    (found : system.run? run.generation = some held) :
    (system.setRun run).run? run.generation = some run := by
  rw [setRun, run?_change system (fun _ => run) fun _ _ => rfl, if_pos rfl, found, Option.map_some]

/-- Putting a run in its place leaves the runs of other generations alone. -/
theorem run?_setRun_of_ne {system : System} {generation : Nat} (run : Run)
    (other : generation ≠ run.generation) :
    (system.setRun run).run? generation = system.run? generation := by
  rw [setRun, run?_change system (fun _ => run) fun _ _ => rfl, if_neg other.symm]

/-- Telling the current run to stop leaves the others alone. -/
theorem run?_cancelCurrent (system : System) (generation : Nat) :
    system.cancelCurrent.run? generation =
      if system.current = some generation then
        (system.run? generation).map fun run => { run with cancelled := true }
      else system.run? generation := by
  unfold cancelCurrent
  split
  case h_1 nobody => simp [nobody]
  case h_2 current isCurrent =>
    rw [run?_change system (fun run => { run with cancelled := true }) fun _ same => same,
      isCurrent]
    simp only [Option.some.injEq]

/-- Nobody listens any more to the current run when it is stopped; the others are left alone. -/
theorem run?_stopCurrent (system : System) (generation : Nat) :
    system.stopCurrent.run? generation =
      if system.current = some generation then
        (system.run? generation).map fun run =>
          { run with cancelled := true, heard := false, queue := [] }
      else system.run? generation := by
  unfold stopCurrent
  split
  case h_1 nobody => simp [nobody]
  case h_2 current isCurrent =>
    rw [run?_change { system with current := none }
      (fun run => { run with cancelled := true, heard := false, queue := [] })
      fun _ same => same, isCurrent]
    simp only [Option.some.injEq]
    rfl

/-- Nothing is current when the current run was stopped. -/
@[simp]
theorem current_stopCurrent (system : System) : system.stopCurrent.current = none := by
  unfold stopCurrent
  split
  · assumption
  · rfl

/-- Stopping the current run begins no generation. -/
@[simp]
theorem generation_stopCurrent (system : System) :
    system.stopCurrent.generation = system.generation := by
  unfold stopCurrent
  split <;> rfl

/-- Taking messages leaves the current run the current one. -/
@[simp]
theorem current_takeMessages (system : System) (budget : Nat) :
    (system.takeMessages budget).1.current = system.current := by
  unfold takeMessages
  split <;> rfl

/-- Taking messages begins no generation. -/
@[simp]
theorem generation_takeMessages (system : System) (budget : Nat) :
    (system.takeMessages budget).1.generation = system.generation := by
  unfold takeMessages
  split <;> rfl

/-- Cancelling leaves the current run the current one. -/
@[simp]
theorem current_cancelCurrent (system : System) :
    system.cancelCurrent.current = system.current := by
  unfold cancelCurrent
  split <;> rfl

/-- Cancelling begins no generation. -/
@[simp]
theorem generation_cancelCurrent (system : System) :
    system.cancelCurrent.generation = system.generation := by
  unfold cancelCurrent
  split <;> rfl

/-- The run of the new generation is the one that was started. -/
theorem run?_startRun_new (system : System) (nodes : List String) (timeout : Nat) :
    (system.startRun nodes timeout).run? (system.generation + 1) =
      some (.begin (system.generation + 1) nodes timeout) := by
  simp [startRun, run?, Run.begin]

/-- A start stops the current run and leaves the others alone. -/
theorem run?_startRun_of_ne {system : System} {nodes : List String} {timeout generation : Nat}
    (other : generation ≠ system.generation + 1) :
    (system.startRun nodes timeout).run? generation = system.stopCurrent.run? generation := by
  simp [startRun, run?, Run.begin, other.symm]

/-- Messages are taken from the current run, if it is there. -/
theorem takeMessages_cases (system : System) (budget : Nat) :
    (∃ run, system.current = some run.generation ∧ system.run? run.generation = some run ∧
      system.takeMessages budget =
        (system.setRun { run with queue := run.queue.drop budget }, run.queue.take budget)) ∨
    (system.current.bind system.run? = none ∧ system.takeMessages budget = (system, [])) := by
  cases held : system.current.bind system.run? with
  | none => exact .inr ⟨rfl, by simp [takeMessages, held]⟩
  | some run =>
    obtain ⟨generation, current, found⟩ := Option.bind_eq_some_iff.mp held
    obtain rfl := generation_of_run? found
    exact .inl ⟨run, current, found, by simp [takeMessages, held]⟩

end System

namespace Run

/-- A run that somebody listens to sends its message. -/
theorem after_heard {run : Run} (heard : run.heard = true) (message : Progress) (next : Phase) :
    run.after (some message) next =
      ({ run with queue := run.queue ++ [message], phase := next }, some message) :=
  if_pos heard

/-- A run that nobody listens to ends when it has something to send. -/
theorem after_unheard {run : Run} (unheard : run.heard = false) (message : Progress)
    (next : Phase) : run.after (some message) next = ({ run with phase := .ended }, none) :=
  if_neg (by simp [unheard])

/-- An action of a run changes its phase and its queue, and nothing else of it. -/
theorem after_keeps (run : Run) (message : Option Progress) (next : Phase) :
    ∃ phase queue, (run.after message next).1 = { run with phase, queue } := by
  cases message with
  | none => exact ⟨next, run.queue, rfl⟩
  | some message =>
    rcases run.heard.eq_false_or_eq_true with heard | heard
    · exact ⟨next, run.queue ++ [message], congrArg Prod.fst (after_heard heard _ _)⟩
    · exact ⟨.ended, run.queue, congrArg Prod.fst (after_unheard heard _ _)⟩

/-- A run keeps its generation. -/
@[simp]
theorem generation_after (run : Run) (message : Option Progress) (next : Phase) :
    (run.after message next).1.generation = run.generation := by
  obtain ⟨phase, queue, same⟩ := run.after_keeps message next
  rw [same]

/-- A run keeps its nodes. -/
@[simp]
theorem nodes_after (run : Run) (message : Option Progress) (next : Phase) :
    (run.after message next).1.nodes = run.nodes := by
  obtain ⟨phase, queue, same⟩ := run.after_keeps message next
  rw [same]

/-- A run does not cancel itself. -/
@[simp]
theorem cancelled_after (run : Run) (message : Option Progress) (next : Phase) :
    (run.after message next).1.cancelled = run.cancelled := by
  obtain ⟨phase, queue, same⟩ := run.after_keeps message next
  rw [same]

/-- A run is listened to as before. -/
@[simp]
theorem heard_after (run : Run) (message : Option Progress) (next : Phase) :
    (run.after message next).1.heard = run.heard := by
  obtain ⟨phase, queue, same⟩ := run.after_keeps message next
  rw [same]

/-- A run comes to the phase that its action leads to, or it ends. -/
theorem phase_after (run : Run) (message : Option Progress) (next : Phase) :
    (run.after message next).1.phase = next ∨ (run.after message next).1.phase = .ended := by
  cases message with
  | none => exact .inl rfl
  | some message =>
    rcases run.heard.eq_false_or_eq_true with heard | unheard
    · exact .inl (by rw [after_heard heard])
    · exact .inr (by rw [after_unheard unheard])

/-- A message that is sent is the one that the run had to send, and somebody listens to the run. -/
theorem message_of_after {run : Run} {message : Option Progress} {next : Phase} {sent : Progress}
    (sends : (run.after message next).2 = some sent) :
    message = some sent ∧ run.heard = true := by
  cases message with
  | none => cases sends
  | some message =>
    cases heard : run.heard with
    | true =>
      rw [after_heard heard] at sends
      exact ⟨sends, rfl⟩
    | false =>
      rw [after_unheard heard] at sends
      cases sends

end Run

namespace Move

section

variable {system base : System} {run : Run} {event : Event} {message : Option Progress}
  {next : Phase}

/-- An action of a run is an event of that run. -/
theorem run?_event (move : Move system run event base message next) :
    event.run? = some run.generation := by
  cases move <;> rfl

/-- An action of a run leaves the listener alone. -/
theorem endsListening_event (move : Move system run event base message next) :
    event.endsListening = false := by
  cases move <;> rfl

/-- A move finds all runs as they were before the run is settled. -/
@[simp]
theorem run?_base (move : Move system run event base message next) (generation : Nat) :
    base.run? generation = system.run? generation := by
  cases move <;> rfl

/-- A move leaves the current run the current one. -/
@[simp]
theorem current_base (move : Move system run event base message next) :
    base.current = system.current := by
  cases move <;> rfl

/-- A move begins no generation. -/
@[simp]
theorem generation_base (move : Move system run event base message next) :
    base.generation = system.generation := by
  cases move <;> rfl

/-- What becomes of the run that acts. -/
theorem run?_self (move : Move system run event base message next)
    (found : system.run? run.generation = some run) :
    (base.settle (run.after message next)).system.run? run.generation =
      some (run.after message next).1 := by
  have placed : (run.after message next).1.generation = run.generation :=
    run.generation_after message next
  have held : base.run? (run.after message next).1.generation = some run := by
    rw [placed, move.run?_base, found]
  rw [System.settle, ← placed]
  exact System.run?_setRun_self _ held

/-- The other runs stay as they are. -/
theorem run?_of_ne (move : Move system run event base message next) {generation : Nat}
    (other : generation ≠ run.generation) :
    (base.settle (run.after message next)).system.run? generation = system.run? generation := by
  rw [System.settle, System.run?_setRun_of_ne, move.run?_base]
  rwa [run.generation_after message next]

end

end Move

/-! ### Consequences -/

/-- The run of an action is there. -/
theorem Transition.run?_of_event {system : System} {event : Event} {outcome : Outcome}
    {generation : Nat} (transition : Transition system event outcome)
    (acts : event.run? = some generation) : ∃ run, system.run? generation = some run := by
  cases transition with
  | @move run event base message next found move =>
    rw [move.run?_event] at acts
    cases acts
    exact ⟨run, found⟩
  | _ => cases acts

/-- The current run changes when it is stopped or another one is started, and only then. -/
theorem Transition.current {system : System} {event : Event} {outcome : Outcome}
    (transition : Transition system event outcome) :
    (event.endsListening = false ∧ outcome.system.current = system.current ∧
      outcome.system.generation = system.generation) ∨
    (event = .stop ∧ outcome.system.current = none ∧
      outcome.system.generation = system.generation) ∨
    (∃ nodes timeout, event = .start nodes timeout ∧
      outcome.system.current = some (system.generation + 1) ∧
      outcome.system.generation = system.generation + 1) := by
  cases transition with
  | start nodes timeout =>
    refine .inr (.inr ⟨nodes, timeout, rfl, ?_, ?_⟩) <;> simp [System.startRun]
  | cancel => exact .inl ⟨rfl, system.current_cancelCurrent, system.generation_cancelCurrent⟩
  | stop => exact .inr (.inl ⟨rfl, system.current_stopCurrent, system.generation_stopCurrent⟩)
  | take budget =>
    exact .inl ⟨rfl, system.current_takeMessages budget, system.generation_takeMessages budget⟩
  | release busy => exact .inl ⟨rfl, rfl, rfl⟩
  | answer result silent => exact .inl ⟨rfl, rfl, rfl⟩
  | move found move =>
    exact .inl ⟨move.endsListening_event, move.current_base, move.generation_base⟩

/-- Only actions of runs that somebody listens to send messages. -/
theorem Transition.sent {system : System} {event : Event} {outcome : Outcome} {message : Progress}
    (transition : Transition system event outcome) (sends : outcome.sent = some message) :
    ∃ run base next, system.run? run.generation = some run ∧ run.heard = true ∧
      Move system run event base (some message) next := by
  cases transition with
  | @move run event base offered next found move =>
    obtain ⟨rfl, heard⟩ := Run.message_of_after sends
    exact ⟨run, base, next, found, heard, move⟩
  | _ => cases sends

/-- Messages are taken of the current run, within the budget. -/
theorem Transition.taken {system : System} {event : Event} {outcome : Outcome}
    {message : Progress} (transition : Transition system event outcome)
    (isTaken : message ∈ outcome.taken) :
    ∃ (budget : Nat) (run : Run), event = .take budget ∧ system.current = some run.generation ∧
      system.run? run.generation = some run ∧ outcome.taken = run.queue.take budget := by
  cases transition with
  | take budget =>
    rcases system.takeMessages_cases budget with ⟨run, current, found, takes⟩ | ⟨-, takes⟩
    · exact ⟨budget, run, rfl, current, found, congrArg Prod.snd takes⟩
    · dsimp only at isTaken
      rw [takes] at isTaken
      cases isTaken
  | _ => cases isTaken

/-- Only workers who have let go of their nodes answer. -/
theorem Transition.silent {system : System} {ticket : Nat} {result : Option FetchResult}
    {outcome : Outcome} (transition : Transition system (.answer ticket result) outcome) :
    ticket ∈ system.silent := by
  cases transition with
  | answer _ silent => exact silent
  | move found move => cases move

/-- A start makes its run current. -/
theorem Transition.current_start {system : System} {nodes : List String} {timeout : Nat}
    {outcome : Outcome} (transition : Transition system (.start nodes timeout) outcome) :
    outcome.system.current = some (system.generation + 1) ∧
      outcome.system.generation = system.generation + 1 := by
  rcases transition.current with ⟨listened, -⟩ | ⟨event, -⟩ | ⟨_, _, -, facts⟩
  · cases listened
  · cases event
  · exact facts

/-- After a start its run is there. -/
theorem Transition.run?_start {system : System} {nodes : List String} {timeout : Nat}
    {outcome : Outcome} (transition : Transition system (.start nodes timeout) outcome) :
    outcome.system.run? outcome.system.generation =
      some (.begin outcome.system.generation nodes timeout) := by
  cases transition with
  | start => simp [System.startRun, System.run?, Run.begin]
  | move found move => cases move

/-- Generations never go back. -/
theorem Transition.generation_le {system : System} {event : Event} {outcome : Outcome}
    (transition : Transition system event outcome) :
    system.generation ≤ outcome.system.generation := by
  rcases transition.current with ⟨-, -, same⟩ | ⟨-, -, same⟩ | ⟨_, _, -, -, next⟩
  · exact Nat.le_of_eq same.symm
  · exact Nat.le_of_eq same.symm
  · rw [next]
    exact Nat.le_succ _

/-- A run of an earlier start is current when it was before and was not stopped. -/
theorem Transition.current_iff {system : System} {event : Event} {outcome : Outcome}
    {generation : Nat} (transition : Transition system event outcome)
    (old : generation ≤ system.generation) :
    outcome.system.current = some generation ↔
      system.current = some generation ∧ event.endsListening = false := by
  rcases transition.current with ⟨listened, same, -⟩ | ⟨rfl, none, -⟩ | ⟨_, _, rfl, new, -⟩
  · simp [listened, same]
  · simp [none, Event.endsListening]
  · have other : system.generation + 1 ≠ generation := by omega
    simp [new, other, Event.endsListening]

end QueryTail.Polling
