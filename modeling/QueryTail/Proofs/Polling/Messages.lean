import QueryTail.Proofs.Polling.History
import QueryTail.Proofs.Polling.Protocol

/-!
# The messages of all runs

Runs may overlap: one that was stopped goes on until it notices, while the next is already at work.
Still each follows its protocol, what is taken comes from the current run alone, and what is taken
of it is exactly what it sent, as far as it got.
-/

namespace QueryTail.Polling

/-! ### All runs -/

/-- Only the run that was started last can be current, and somebody listens to the current run
alone. -/
structure System.Attended (system : System) : Prop where
  bounded : ∀ generation run, system.run? generation = some run → generation ≤ system.generation
  latest : ∀ generation, system.current = some generation → generation = system.generation
  heard_iff : ∀ generation run, system.run? generation = some run →
    (run.heard = true ↔ system.current = some generation)

/-- The messages that the run of a generation has sent. -/
def sentBy (generation : Nat) (past : List Occurrence) : List Progress :=
  past.flatMap (Occurrence.sentBy generation)

/-- The messages that were taken while the run of a generation was the current one. -/
def takenFrom (generation : Nat) (past : List Occurrence) : List Progress :=
  past.flatMap (Occurrence.takenFrom generation)

/-- The run of a generation was told to stop. -/
def ToldToStop (generation : Nat) (past : List Occurrence) : Prop :=
  ∃ cause ∈ past, cause.before.current = some generation ∧ cause.event.tellsToStop = true

section

variable {generation : Nat} {past : List Occurrence} {occurrence : Occurrence}

/-- What is sent by the end is what was sent before and what is sent last. -/
@[simp]
theorem sentBy_concat :
    sentBy generation (past ++ [occurrence]) =
      sentBy generation past ++ occurrence.sentBy generation := by
  simp [sentBy]

/-- What is taken by the end is what was taken before and what is taken last. -/
@[simp]
theorem takenFrom_concat :
    takenFrom generation (past ++ [occurrence]) =
      takenFrom generation past ++ occurrence.takenFrom generation := by
  simp [takenFrom]

/-- Whoever was told to stop stays told so. -/
theorem ToldToStop.concat (told : ToldToStop generation past) :
    ToldToStop generation (past ++ [occurrence]) := by
  obtain ⟨cause, isMember, told⟩ := told
  exact ⟨cause, List.mem_append_left _ isMember, told⟩

end

namespace System.Attended

/-- At the beginning there are no runs. -/
theorem idle : System.idle.Attended :=
  ⟨nofun, nofun, nofun⟩

/-- Whatever happens, somebody listens to the current run alone. -/
theorem step {system : System} {event : Event} {outcome : Outcome} (attended : system.Attended)
    (transition : Transition system event outcome) : outcome.system.Attended := by
  refine ⟨fun generation after found => ?_, fun generation current => ?_,
    fun generation after found => ?_⟩
  · rcases transition.run?_after found with ⟨_, _, rfl, rfl, -⟩ | ⟨run, before, -⟩
    · exact Nat.le_of_eq transition.current_start.2.symm
    · exact Nat.le_trans (attended.bounded generation run before) transition.generation_le
  · rcases transition.current with ⟨-, same, kept⟩ | ⟨-, none, -⟩ | ⟨_, _, -, new, next⟩
    · rw [kept]
      exact attended.latest generation (same.symm.trans current)
    · rw [none] at current
      cases current
    · rw [next]
      exact (Option.some.inj (new.symm.trans current)).symm
  · rcases transition.run?_after found with ⟨_, _, rfl, rfl, rfl⟩ | ⟨run, before, effect⟩
    · exact iff_of_true rfl transition.current_start.1
    · obtain rfl := System.generation_of_run? before
      rw [transition.current_iff (attended.bounded _ run before), effect.heard_iff,
        attended.heard_iff _ run before]
      constructor
      · rintro ⟨current, listened⟩
        exact ⟨current, listened current⟩
      · rintro ⟨current, listened⟩
        exact ⟨current, fun _ => listened⟩

end System.Attended

/-- What the system after a history has to do with the messages that were sent and taken. -/
structure Books (past : List Occurrence) (system : System) : Prop where
  attended : system.Attended
  account : ∀ generation run, system.run? generation = some run →
    run.Account (sentBy generation past) (takenFrom generation past)
  told : ∀ generation run, system.run? generation = some run → run.cancelled = true →
    ToldToStop generation past
  fresh : ∀ generation, system.generation < generation →
    sentBy generation past = [] ∧ takenFrom generation past = []

namespace Books

/-- At the beginning nothing was sent or taken. -/
theorem idle : Books [] .idle :=
  ⟨.idle, nofun, nofun, fun _ _ => ⟨rfl, rfl⟩⟩

/-- Nothing is sent by a run or taken from a run before it is started. -/
theorem fresh_step {past : List Occurrence} {system : System} {event : Event} {outcome : Outcome}
    {generation : Nat} (books : Books past system) (transition : Transition system event outcome)
    (later : system.generation < generation) :
    sentBy generation (past ++ [⟨system, event, outcome⟩]) = [] ∧
      takenFrom generation (past ++ [⟨system, event, outcome⟩]) = [] := by
  obtain ⟨unsent, untaken⟩ := books.fresh generation later
  have silent : event.run? ≠ some generation := by
    intro acts
    obtain ⟨run, found⟩ := transition.run?_of_event acts
    have old := books.attended.bounded generation run found
    omega
  have uncurrent : system.current ≠ some generation := by
    intro current
    have newest := books.attended.latest generation current
    omega
  rw [sentBy_concat, takenFrom_concat, unsent, untaken]
  exact ⟨if_neg silent, if_neg uncurrent⟩

/-- Whatever happens, the books are kept. -/
theorem step {past : List Occurrence} {system : System} {event : Event} {outcome : Outcome}
    (books : Books past system) (transition : Transition system event outcome) :
    Books (past ++ [⟨system, event, outcome⟩]) outcome.system := by
  refine ⟨books.attended.step transition, fun generation after found => ?_,
    fun generation after found cancelled => ?_, fun generation later => ?_⟩
  · rcases transition.run?_after found with ⟨nodes, timeout, rfl, rfl, rfl⟩ | ⟨run, before, effect⟩
    · obtain ⟨unsent, untaken⟩ := books.fresh_step transition (Nat.lt_succ_self _)
      rw [unsent, untaken]
      exact .begin _ nodes timeout
    · obtain rfl := System.generation_of_run? before
      rw [sentBy_concat, takenFrom_concat]
      exact effect.account (books.account _ run before)
        (books.attended.heard_iff _ run before).mpr
  · rcases transition.run?_after found with ⟨_, _, -, -, rfl⟩ | ⟨run, before, effect⟩
    · cases cancelled
    · obtain rfl := System.generation_of_run? before
      rcases effect.cancelled_of_after cancelled with earlier | ⟨current, tells⟩
      · exact (books.told _ run before earlier).concat
      · exact ⟨_, List.mem_append_right past (List.mem_singleton_self _), current, tells⟩
  · exact books.fresh_step transition (Nat.lt_of_le_of_lt transition.generation_le later)

end Books

/-- The books of every history are kept. -/
theorem History.books {past : List Occurrence} {system : System}
    (history : History past system) : Books past system := by
  induction history with
  | idle => exact .idle
  | next earlier happens hypothesis => exact hypothesis.step (System.transition_of_step happens)

/-! ### What a listener can rely on -/

/-- The generation that a start gave to its run. -/
def Occurrence.started? (occurrence : Occurrence) : Option Nat :=
  match occurrence.event with
  | .start _ _ => some occurrence.outcome.system.generation
  | _ => none

/-- The generations of the runs that were started, in the order of the starts. -/
def startedGenerations (past : List Occurrence) : List Nat :=
  past.filterMap Occurrence.started?

/-- The run of a generation, which was started on some nodes, follows the protocol, and what was
taken of it is the beginning of what it sent. As long as it is current, whatever was not taken yet
is still there, and is what is taken next; and the run can go on, unless it was told to stop. -/
structure Followed (past : List Occurrence) (system : System) (generation : Nat)
    (nodes : List String) : Prop where
  protocol : Protocol generation nodes (sentBy generation past)
  isPrefix : takenFrom generation past <+: sentBy generation past
  lossless : system.current = some generation → ∃ left,
    sentBy generation past = takenFrom generation past ++ left ∧
      ∀ budget, (system.takeMessages budget).2 = left.take budget
  lively : system.current = some generation →
    (∃ event, event.run? = some generation ∧ (system.step event).isSome = true) ∨
      ToldToStop generation past

/-- What a listener can rely on after a history. -/
structure Reliable (past : List Occurrence) (system : System) : Prop where
  /-- Every run that was started follows the protocol. -/
  followed : ∀ occurrence ∈ past, ∀ nodes timeout, occurrence.event = .start nodes timeout →
    Followed past system occurrence.outcome.system.generation nodes
  /-- Later runs have greater generations. -/
  increasing : (startedGenerations past).Pairwise (· < ·)
  /-- Every message carries the generation of the run that sends it. -/
  labelled : ∀ occurrence ∈ past, ∀ message, occurrence.outcome.sent = some message →
    occurrence.event.run? = some message.generation
  /-- A run tells that it stopped only after it was told to stop. -/
  stopped : ∀ earlier occurrence later generation, past = earlier ++ occurrence :: later →
    occurrence.outcome.sent = some (.stopped generation) → ToldToStop generation earlier
  /-- Nothing is taken beyond the budget. -/
  budgeted : ∀ occurrence ∈ past, ∀ message ∈ occurrence.outcome.taken, ∃ budget,
    occurrence.event = .take budget ∧ occurrence.outcome.taken.length ≤ budget
  /-- Messages are taken of the current run alone. -/
  current : ∀ occurrence ∈ past, ∀ message ∈ occurrence.outcome.taken,
    occurrence.before.current = some message.generation
  /-- After another run was started, or the run was stopped, nothing is taken of it. -/
  retired : ∀ earlier occurrence later generation, past = earlier ++ occurrence :: later →
    occurrence.before.current = some generation → occurrence.event.endsListening = true →
    ∀ afterwards ∈ later, ∀ message ∈ afterwards.outcome.taken, message.generation ≠ generation

/-- Every message carries the generation of the run that sends it. -/
theorem Move.generation_of_message {system base : System} {run : Run} {event : Event}
    {message : Progress} {next : Phase} (move : Move system run event base (some message) next) :
    message.generation = run.generation := by
  cases move with
  | tell => rfl
  | report => exact (run.isReport_report _ _).generation_eq
  | finish => rfl

/-- A run that tells that it stopped is stopping. -/
theorem Move.phase_of_stopped {system base : System} {run : Run} {event : Event}
    {generation : Nat} {next : Phase}
    (move : Move system run event base (some (.stopped generation)) next) :
    run.phase = .stopping ∧ run.generation = generation := by
  generalize told : some (Progress.stopped generation) = message at move
  cases move with
  | finish phase =>
    cases told
    exact ⟨phase, rfl⟩
  | @report node result =>
    have report := run.isReport_report node result
    rw [← Option.some.inj told] at report
    cases report
  | _ => cases told

/-- A run that has not ended can go on. -/
theorem System.step_or_ended {system : System} {run : Run}
    (found : system.run? run.generation = some run) :
    (∃ event : Event, event.run? = some run.generation ∧ (system.step event).isSome = true) ∨
      run.phase = .ended := by
  cases phase : run.phase with
  | starting =>
    exact .inl ⟨.advance run.generation, rfl, by simp [step, found, advanceRun, phase]⟩
  | asking rest =>
    refine .inl ⟨.advance run.generation, rfl, ?_⟩
    simp only [step, found, Option.bind_some, advanceRun, phase]
    split
    · rfl
    · split <;> rfl
  | claiming node rest =>
    exact .inl ⟨.advance run.generation, rfl, by simp [step, found, advanceRun, phase]⟩
  | fetching node ticket rest =>
    exact .inl ⟨.expire run.generation, rfl, by simp [step, found, phase]⟩
  | telling node result rest =>
    exact .inl ⟨.advance run.generation, rfl, by simp [step, found, advanceRun, phase]⟩
  | stopping =>
    exact .inl ⟨.advance run.generation, rfl, by simp [step, found, advanceRun, phase]⟩
  | ended => exact .inr rfl

/-- A start gives its run the next generation. -/
theorem Occurrence.started?_eq_some {occurrence : Occurrence} {generation : Nat}
    (transition : Transition occurrence.before occurrence.event occurrence.outcome)
    (started : occurrence.started? = some generation) :
    generation = occurrence.before.generation + 1 ∧
      occurrence.outcome.system.generation = generation := by
  unfold started? at started
  split at started
  case h_1 nodes timeout event =>
    cases started
    rw [event] at transition
    exact ⟨transition.current_start.2, rfl⟩
  case h_2 => cases started

namespace History

variable {past : List Occurrence} {system : System}

/-- The run that was started on some nodes is there ever after. -/
theorem run?_of_start {occurrence : Occurrence} {nodes : List String} {timeout : Nat}
    (history : History past system) (isMember : occurrence ∈ past)
    (event : occurrence.event = .start nodes timeout) :
    ∃ run, system.run? occurrence.outcome.system.generation = some run ∧ run.nodes = nodes := by
  obtain ⟨earlier, later, split⟩ := List.append_of_mem isMember
  obtain ⟨-, happens⟩ := history.at_occurrence split
  have started := System.transition_of_step happens
  rw [event] at started
  have kept := history.holds_since
    (fun reached => occurrence.outcome.system.generation ≤ reached.generation ∧
      ∃ run, reached.run? occurrence.outcome.system.generation = some run ∧ run.nodes = nodes)
    split ?keeps ⟨Nat.le_refl _, _, started.run?_start, rfl⟩
  · exact kept.2
  case keeps =>
    rintro system event outcome ⟨old, run, found, sameNodes⟩ transition
    obtain ⟨after, foundAfter, effect⟩ := transition.run?_before found old
    exact ⟨Nat.le_trans old transition.generation_le, after, foundAfter,
      effect.nodes_eq.trans sameNodes⟩

/-- Generations of later starts are greater, and none is greater than that of the last. -/
theorem startedGenerations_increasing (history : History past system) :
    (startedGenerations past).Pairwise (· < ·) ∧
      ∀ generation ∈ startedGenerations past, generation ≤ system.generation := by
  induction history with
  | idle => exact ⟨.nil, nofun⟩
  | @next past system event outcome earlier happens hypothesis =>
    obtain ⟨increasing, bounded⟩ := hypothesis
    have transition := System.transition_of_step happens
    have older : ∀ generation ∈ startedGenerations past,
        generation ≤ outcome.system.generation := fun generation isStarted =>
      Nat.le_trans (bounded generation isStarted) transition.generation_le
    cases started : Occurrence.started? ⟨system, event, outcome⟩ with
    | none =>
      rw [startedGenerations, filterMap_concat, started, Option.toList_none, List.append_nil]
      exact ⟨increasing, older⟩
    | some generation =>
      obtain ⟨rfl, newest⟩ := Occurrence.started?_eq_some transition started
      rw [startedGenerations, filterMap_concat, started, Option.toList_some, List.pairwise_append]
      refine ⟨⟨increasing, List.pairwise_singleton _ _, ?_⟩, ?_⟩
      · intro before isStarted new isNew
        obtain rfl := List.mem_singleton.mp isNew
        exact Nat.lt_succ_of_le (bounded before isStarted)
      · intro generation isStarted
        rcases List.mem_append.mp isStarted with before | isNew
        · exact older generation before
        · obtain rfl := List.mem_singleton.mp isNew
          exact Nat.le_of_eq newest.symm

/-- Messages are taken of the current run alone. -/
theorem current_of_taken {occurrence : Occurrence} {message : Progress}
    (history : History past system) (isMember : occurrence ∈ past)
    (isTaken : message ∈ occurrence.outcome.taken) :
    occurrence.before.current = some message.generation := by
  obtain ⟨earlier, before, transition⟩ := history.of_mem isMember
  obtain ⟨budget, run, -, current, found, taken⟩ := transition.taken isTaken
  have books := before.books
  have account := books.account _ run found
  have heard := (books.attended.heard_iff _ run found).mpr current
  have queued : message ∈ run.queue := List.mem_of_mem_take (taken ▸ isTaken)
  have isSent : message ∈ sentBy run.generation earlier := by
    rw [account.queued heard]
    exact List.mem_append_right _ queued
  rw [current, account.spoken.protocol.generation_eq message isSent]

/-- A run that was stopped, or in whose place another one was started, is never current again. -/
theorem current_ne_of_ended {earlier later : List Occurrence} {occurrence : Occurrence}
    {generation : Nat} (history : History past system)
    (split : past = earlier ++ occurrence :: later)
    (current : occurrence.before.current = some generation)
    (ends : occurrence.event.endsListening = true) : system.current ≠ some generation := by
  obtain ⟨before, happens⟩ := history.at_occurrence split
  have transition := System.transition_of_step happens
  have old : generation ≤ occurrence.before.generation :=
    Nat.le_of_eq (before.books.attended.latest generation current)
  have kept := history.holds_since
    (fun reached => generation ≤ reached.generation ∧ reached.current ≠ some generation)
    split ?keeps ?holds
  · exact kept.2
  case keeps =>
    rintro system event outcome ⟨old, ended⟩ transition
    refine ⟨Nat.le_trans old transition.generation_le, ?_⟩
    rw [Ne, transition.current_iff old]
    exact fun stays => ended stays.1
  case holds =>
    refine ⟨Nat.le_trans old transition.generation_le, ?_⟩
    rw [Ne, transition.current_iff old, ends]
    exact fun stays => nomatch stays.2

/-- After every history, a listener can rely on the runs. -/
theorem reliable (history : History past system) : Reliable past system := by
  refine ⟨?followed, ?increasing, ?labelled, ?stopped, ?budgeted, ?current, ?retired⟩
  case followed =>
    intro occurrence isMember nodes timeout event
    obtain ⟨run, found, rfl⟩ := history.run?_of_start isMember event
    have same := System.generation_of_run? found
    have account := history.books.account _ run found
    rw [← same] at found account ⊢
    have books := history.books
    refine ⟨account.spoken.protocol, account.isPrefix, fun current => ?_, fun current => ?_⟩
    · have heard := (books.attended.heard_iff _ run found).mpr current
      refine ⟨run.queue, account.queued heard, fun budget => ?_⟩
      simp [System.takeMessages, current, found]
    · have heard := (books.attended.heard_iff _ run found).mpr current
      rcases System.step_or_ended found with goesOn | ended
      · exact .inl goesOn
      · exact .inr (books.told _ run found (account.obedient heard (ended ▸ trivial)))
  case increasing => exact history.startedGenerations_increasing.1
  case labelled =>
    intro occurrence isMember message sends
    obtain ⟨earlier, -, transition⟩ := history.of_mem isMember
    obtain ⟨run, base, next, -, -, move⟩ := transition.sent sends
    rw [move.generation_of_message, move.run?_event]
  case stopped =>
    intro earlier occurrence later generation split sends
    obtain ⟨before, happens⟩ := history.at_occurrence split
    obtain ⟨run, base, next, found, heard, move⟩ := (System.transition_of_step happens).sent sends
    obtain ⟨stopping, rfl⟩ := move.phase_of_stopped
    have account := before.books.account _ run found
    exact before.books.told _ run found (account.obedient heard (stopping ▸ trivial))
  case budgeted =>
    intro occurrence isMember message isTaken
    obtain ⟨earlier, -, transition⟩ := history.of_mem isMember
    obtain ⟨budget, run, event, -, -, taken⟩ := transition.taken isTaken
    refine ⟨budget, event, ?_⟩
    rw [taken]
    exact List.length_take_le budget run.queue
  case current =>
    intro occurrence isMember message isTaken
    exact history.current_of_taken isMember isTaken
  case retired =>
    intro earlier occurrence later generation split current ends afterwards isLater message isTaken
    obtain ⟨between, rest, rfl⟩ := List.append_of_mem isLater
    have split' : past = (earlier ++ occurrence :: between) ++ afterwards :: rest := by
      rw [split, List.append_assoc, List.cons_append]
    obtain ⟨before, -⟩ := history.at_occurrence split'
    have ended := before.current_ne_of_ended rfl current ends
    have isMember : afterwards ∈ past := by
      rw [split']
      exact List.mem_append_right _ (List.mem_cons_self ..)
    rw [history.current_of_taken isMember isTaken] at ended
    exact fun same => ended (congrArg some same)

/-- A run is told to stop after a fetch took too long, and the next run finds the node of that fetch
claimed. -/
theorem reliable_overlapping :
    ∃ past system, History past system ∧
      past.flatMap (fun occurrence => occurrence.outcome.sent.toList) =
        [.started 1 2, .page 1 "a" [], .fetchFailed 1 "b" (SourceFault.timeout "b" 50).message,
          .stopped 1, .started 2 1,
          .fetchFailed 2 "b" (SourceFault.stillRunning "b").message] ∧
      past.flatMap (fun occurrence => occurrence.outcome.taken) =
        [.started 1 2, .page 1 "a" [], .started 2 1] ∧
      Reliable past system := by
  have happens : System.idle.schedule
      [.start ["a", "b"] 50, .advance 1, .advance 1, .advance 1, .release 0,
        .answer 0 (some (.ok [])), .receive 1, .advance 1, .take 1, .advance 1, .advance 1,
        .expire 1, .advance 1, .advance 1, .cancel, .advance 1, .advance 1, .take 1,
        .start ["b"] 50, .advance 2, .advance 2, .advance 2, .advance 2, .take 1] =
      some (_, _, _) := rfl
  obtain ⟨past, history, -, sent, taken⟩ := History.idle.extend happens
  exact ⟨past, _, history, sent, taken, reliable history⟩

end History

end QueryTail.Polling
