import QueryTail.Proofs.Polling.Crew

/-!
# One fetch a node

No node is ever asked by two workers at a time, however runs overlap and however long the fetches
take that were left behind; and a run passes over a node only because a worker is still there. A
fetch whose answer a run has got is never the reason: its worker had let go before it answered, so
whoever is at the node was sent off later.

A run passes over a node when it fails to claim it, and reports that afterwards. By then the worker
may be gone, but the run has done nothing else in between.
-/

namespace QueryTail.Polling

/-- The worker whose answer a run got. -/
def Occurrence.received? (occurrence : Occurrence) : Option Worker :=
  match occurrence.event with
  | .receive generation =>
    match (occurrence.before.run? generation).map Run.phase with
    | some (.fetching node ticket _) => some ⟨ticket, node⟩
    | _ => none
  | _ => none

/-- The node that a run passed over: it was about to ask the node, and now has something to tell
without having asked. -/
def Occurrence.refused? (occurrence : Occurrence) : Option String :=
  match occurrence.event with
  | .advance generation =>
    match (occurrence.before.run? generation).map Run.phase,
      (occurrence.outcome.system.run? generation).map Run.phase with
    | some (.claiming node _), some (.telling _ _ _) => some node
    | _, _ => none
  | _ => none

/-- The workers whose answers a run got, in the order in which it got them. -/
def received (past : List Occurrence) : List Worker :=
  past.filterMap Occurrence.received?

/-! ### Later workers -/

/-- Whoever is at a node was sent off with a ticket or after it. -/
def System.OnlySince (system : System) (node : String) (ticket : Nat) : Prop :=
  ticket ≤ system.tickets ∧ ∀ worker ∈ system.busy, worker.node = node → ticket ≤ worker.ticket

/-- Tickets are not given out again, and whoever is busy was so before or has just got a ticket. -/
theorem Transition.busy {system : System} {event : Event} {outcome : Outcome}
    (transition : Transition system event outcome) :
    system.tickets ≤ outcome.system.tickets ∧
      ∀ worker ∈ outcome.system.busy, worker ∈ system.busy ∨ worker.ticket = system.tickets := by
  cases transition.shift with
  | stay same =>
    rw [same.tickets, same.busy]
    exact ⟨Nat.le_refl _, fun worker => .inl⟩
  | hire free same =>
    rw [same.tickets, same.busy]
    refine ⟨Nat.le_succ _, fun worker isBusy => ?_⟩
    rcases List.mem_cons.mp isBusy with rfl | isBusy
    · exact .inr rfl
    · exact .inl isBusy
  | release busy same =>
    rw [same.tickets, same.busy]
    exact ⟨Nat.le_refl _, fun worker isBusy => .inl (List.mem_of_mem_erase isBusy)⟩
  | answer silent same =>
    rw [same.tickets, same.busy]
    exact ⟨Nat.le_refl _, fun worker => .inl⟩

namespace System.OnlySince

variable {system : System} {node : String} {ticket : Nat}

/-- Whatever happens, nobody earlier comes to a node. -/
theorem step {event : Event} {outcome : Outcome} (since : system.OnlySince node ticket)
    (transition : Transition system event outcome) : outcome.system.OnlySince node ticket := by
  obtain ⟨issued, later⟩ := since
  obtain ⟨more, busy⟩ := transition.busy
  refine ⟨Nat.le_trans issued more, fun worker isBusy isAt => ?_⟩
  rcases busy worker isBusy with before | new
  · exact later worker before isAt
  · exact new ▸ issued

/-- Nobody was at a free node before the worker who is sent off to it. -/
theorem dispatch (exclusive : system.Exclusive) (free : node ∉ system.claimed) :
    (system.dispatch node).OnlySince node system.tickets := by
  refine ⟨Nat.le_succ _, fun worker isBusy isAt => ?_⟩
  rcases List.mem_cons.mp isBusy with rfl | isBusy
  · exact Nat.le_refl _
  · exact absurd ((exclusive.claimed_iff node).mpr ⟨worker, isBusy, isAt⟩) free

/-- Only workers count. -/
theorem congr {after : System} (since : system.OnlySince node ticket)
    (same : SameCrew system after) : after.OnlySince node ticket := by
  unfold OnlySince
  rw [same.tickets, same.busy]
  exact since

end System.OnlySince

/-- An action brings a run to a worker only by claiming a free node for it. -/
theorem Move.fetching {system base : System} {run : Run} {event : Event}
    {message : Option Progress} {next : Phase} {node : String} {ticket : Nat} {rest : List String}
    (move : Move system run event base message next)
    (phase : (run.after message next).1.phase = .fetching node ticket rest) :
    node ∉ system.claimed ∧ ticket = system.tickets ∧ base = system.dispatch node := by
  rcases run.phase_after message next with goes | ends
  · rw [goes] at phase
    cases move with
    | claim _ free =>
      cases phase
      exact ⟨free, rfl, rfl⟩
    | _ => cases phase
  · rw [ends] at phase
    cases phase

/-- A run that waits for a worker waited for it before, or has just claimed a free node for it. -/
theorem Transition.fetching {system : System} {event : Event} {outcome : Outcome}
    {generation : Nat} {after : Run} {node : String} {ticket : Nat} {rest : List String}
    (transition : Transition system event outcome)
    (found : outcome.system.run? generation = some after)
    (phase : after.phase = .fetching node ticket rest) :
    (∃ run, system.run? generation = some run ∧ run.phase = .fetching node ticket rest) ∨
      node ∉ system.claimed ∧ ticket = system.tickets ∧
        SameCrew (system.dispatch node) outcome.system := by
  rcases transition.run?_after found with ⟨_, _, -, -, rfl⟩ | ⟨run, before, effect⟩
  · cases phase
  · cases effect with
    | move move leaves =>
      obtain ⟨free, rfl, rfl⟩ := move.fetching phase
      refine .inr ⟨free, rfl, ?_⟩
      rw [show outcome = _ from leaves]
      exact .settle _ _
    | _ => exact .inl ⟨_, before, phase⟩

/-! ### Fetches that are waited for, and fetches whose answers were got -/

/-- The worker that a run waits for is the first at its node since it was sent off, and the workers
whose answers were got are not at their nodes any more. -/
structure Succession (past : List Occurrence) (system : System) : Prop where
  waiting : ∀ generation run node ticket rest, system.run? generation = some run →
    run.phase = .fetching node ticket rest → system.OnlySince node ticket
  received : ∀ worker ∈ received past, releases worker.ticket past = 1 ∧
    system.OnlySince worker.node (worker.ticket + 1)

/-- An answer that a run gets is there, from the worker that the run waits for. -/
theorem Transition.received {system : System} {event : Event} {outcome : Outcome}
    {worker : Worker} (transition : Transition system event outcome)
    (gets : Occurrence.received? ⟨system, event, outcome⟩ = some worker) :
    ∃ generation run rest answer, system.run? generation = some run ∧
      run.phase = .fetching worker.node worker.ticket rest ∧
      (worker.ticket, answer) ∈ system.answers := by
  cases transition with
  | move found move =>
    cases move with
    | receive phase answered =>
      simp only [Occurrence.received?, found, Option.map_some, phase] at gets
      cases gets
      exact ⟨_, _, _, _, found, phase, answered⟩
    | _ => cases gets
  | _ => cases gets

namespace Succession

/-- At the beginning nobody waits. -/
theorem idle : Succession [] .idle :=
  ⟨nofun, nofun⟩

/-- A worker whose answer is got is not at its node any more. -/
theorem onlySince_received {past : List Occurrence} {system : System} {event : Event}
    {outcome : Outcome} {worker : Worker} (succession : Succession past system)
    (roster : Roster past system) (transition : Transition system event outcome)
    (gets : Occurrence.received? ⟨system, event, outcome⟩ = some worker) :
    releases worker.ticket past = 1 ∧ system.OnlySince worker.node (worker.ticket + 1) := by
  obtain ⟨generation, run, rest, answer, found, phase, answered⟩ := transition.received gets
  have hasReleased : releases worker.ticket past = 1 := roster.answered _ answered
  obtain ⟨-, later⟩ := succession.waiting generation run _ _ rest found phase
  refine ⟨hasReleased, ?_, fun other isBusy isAt => ?_⟩
  · by_contra early
    have unissued := roster.issued worker.ticket (by omega)
    omega
  · have unreleased := ((roster.busy_iff other).mp isBusy).2
    have distinct : worker.ticket ≠ other.ticket := by
      intro same
      rw [same, unreleased] at hasReleased
      cases hasReleased
    exact Nat.lt_of_le_of_ne (later other isBusy isAt) distinct

/-- Whatever happens, workers succeed each other. -/
theorem step {past : List Occurrence} {system : System} {event : Event} {outcome : Outcome}
    (succession : Succession past system) (exclusive : system.Exclusive)
    (roster : Roster past system) (transition : Transition system event outcome) :
    Succession (past ++ [⟨system, event, outcome⟩]) outcome.system := by
  refine ⟨fun generation after node ticket rest found phase => ?_, fun worker isReceived => ?_⟩
  · rcases transition.fetching found phase with ⟨run, before, waited⟩ | ⟨free, rfl, same⟩
    · exact (succession.waiting generation run node ticket rest before waited).step transition
    · exact (System.OnlySince.dispatch exclusive free).congr same
  · have facts : releases worker.ticket past = 1 ∧
        system.OnlySince worker.node (worker.ticket + 1) := by
      rw [Polling.received, filterMap_concat, List.mem_append] at isReceived
      rcases isReceived with before | now
      · exact succession.received worker before
      · exact succession.onlySince_received roster transition (Option.mem_toList.mp now)
    have once := (roster.step exclusive transition).once worker.ticket
    exact ⟨Roster.releases_eq_one facts.1 once, facts.2.step transition⟩

end Succession

/-- After every history, workers succeed each other. -/
theorem History.succession {past : List Occurrence} {system : System}
    (history : History past system) : Succession past system := by
  induction history with
  | idle => exact .idle
  | next earlier happens hypothesis =>
    exact hypothesis.step earlier.exclusive earlier.roster (System.transition_of_step happens)

/-! ### Nodes that are passed over -/

/-- A run passes over a node only where the node is claimed. -/
theorem Transition.claimed_of_refused {system : System} {event : Event} {outcome : Outcome}
    {node : String} (transition : Transition system event outcome)
    (passes : Occurrence.refused? ⟨system, event, outcome⟩ = some node) :
    node ∈ system.claimed := by
  cases transition with
  | move found move =>
    have there := move.run?_self found
    cases move with
    | refuse phase claimed =>
      simp only [Occurrence.refused?, found, there, Option.map_some, phase] at passes
      cases passes
      exact claimed
    | claim phase =>
      simp only [Occurrence.refused?, there, Option.map_some] at passes
      split at passes
      case h_1 goes =>
        cases goes
      case h_2 => cases passes
    | receive | expire | notice => cases passes
    | tell phase | obey phase | wake phase | turn phase | report phase | finish phase =>
      simp [Occurrence.refused?, found, phase] at passes
  | _ => cases passes

/-- An event tells a run what there is to report on a node: the node was passed over, or the answer
of a worker was got, or the run has waited too long. -/
inductive Occurrence.Tells (occurrence : Occurrence) (node : String) : FetchResult → Prop where
  | refused (passes : occurrence.refused? = some node) :
      Tells occurrence node (.error (.stillRunning node))
  | received {worker : Worker} (gets : occurrence.received? = some worker)
      (isAt : worker.node = node) (result : FetchResult) : Tells occurrence node result
  | expired (millis : Nat) : Tells occurrence node (.error (.timeout node millis))

/-- The last action of the run of a generation is one that told it what there is to report on a
node. -/
def LastTold (past : List Occurrence) (generation : Nat) (node : String) (result : FetchResult) :
    Prop :=
  ∃ before cause since, past = before ++ cause :: since ∧
    cause.event.run? = some generation ∧ cause.Tells node result ∧
    ∀ other ∈ since, other.event.run? ≠ some generation

namespace LastTold

variable {past : List Occurrence} {occurrence : Occurrence} {generation : Nat} {node : String}
  {result : FetchResult}

/-- What tells the run is its last action when it happens. -/
theorem of_tells (acts : occurrence.event.run? = some generation)
    (tells : occurrence.Tells node result) :
    LastTold (past ++ [occurrence]) generation node result :=
  ⟨past, occurrence, [], rfl, acts, tells, fun _ isLater => absurd isLater List.not_mem_nil⟩

/-- What the others do does not count. -/
theorem concat (told : LastTold past generation node result)
    (others : occurrence.event.run? ≠ some generation) :
    LastTold (past ++ [occurrence]) generation node result := by
  obtain ⟨before, cause, since, rfl, acts, tells, silent⟩ := told
  refine ⟨before, cause, since ++ [occurrence], by simp, acts, tells, fun other isLater => ?_⟩
  rcases List.mem_append.mp isLater with earlier | last
  · exact silent other earlier
  · obtain rfl := List.mem_singleton.mp last
    exact others

end LastTold

/-- An action that brings a run to the point of reporting on a node has just told it what. -/
theorem Move.tells {system base : System} {run : Run} {event : Event} {message : Option Progress}
    {next : Phase} {node : String} {result : FetchResult} {rest : List String}
    (move : Move system run event base message next)
    (found : system.run? run.generation = some run)
    (phase : (run.after message next).1.phase = .telling node result rest) :
    Occurrence.Tells ⟨system, event, base.settle (run.after message next)⟩ node result := by
  have there := move.run?_self found
  rcases run.phase_after message next with goes | ends
  · rw [goes] at phase
    cases move with
    | refuse before =>
      cases phase
      refine .refused ?_
      simp only [Occurrence.refused?, found, there, Option.map_some, before]
      rfl
    | @receive _ ticket _ answer before =>
      cases phase
      have gets : ∀ outcome, Occurrence.received? ⟨system, .receive run.generation, outcome⟩ =
          some ⟨ticket, node⟩ := by
        simp only [Occurrence.received?, found, Option.map_some, before, implies_true]
      exact .received (gets _) rfl _
    | expire =>
      cases phase
      exact .expired _
    | _ => cases phase
  · rw [ends] at phase
    cases phase

/-- After every history, a run that has something to report has just been told it. -/
theorem History.lastTold {past : List Occurrence} {system : System}
    (history : History past system) :
    ∀ generation run node result rest, system.run? generation = some run →
      run.phase = .telling node result rest → LastTold past generation node result := by
  induction history with
  | idle =>
    intro generation run node result rest found
    cases found
  | @next past system event outcome earlier happens hypothesis =>
    intro generation after node result rest found phase
    have transition := System.transition_of_step happens
    rcases transition.run?_after found with ⟨_, _, -, -, rfl⟩ | ⟨run, before, effect⟩
    · cases phase
    · obtain rfl := System.generation_of_run? before
      cases effect with
      | keep others => exact (hypothesis _ _ node result rest before phase).concat others
      | cancel isCancel =>
        exact (hypothesis _ _ node result rest before phase).concat (by rw [isCancel]; nofun)
      | stop ends =>
        exact (hypothesis _ _ node result rest before phase).concat
          (by rw [Event.run?_of_endsListening ends]; nofun)
      | take isTake =>
        exact (hypothesis _ _ node result rest before phase).concat (by rw [isTake]; nofun)
      | @move base message next move leaves =>
        obtain rfl : outcome = base.settle (run.after message next) := leaves
        exact .of_tells move.run?_event (move.tells before phase)

/-- A text that begins with another begins as that one does. -/
theorem head?_append_of_head? {text : String} {initial : Char}
    (begins : text.toList.head? = some initial) (rest : String) :
    (text ++ rest).toList.head? = some initial := by
  rw [String.toList_append, List.head?_append, begins, Option.some_or]

/-- The text of a fetch that took too long is not that of a node that is still busy. -/
theorem timeout_message_ne (first second : String) (millis : Nat) :
    (SourceFault.timeout first millis).message ≠ (SourceFault.stillRunning second).message := by
  have late : (SourceFault.timeout first millis).message.toList.head? = some 'F' := by
    unfold SourceFault.message
    iterate 4 apply head?_append_of_head?
    decide
  have busy : (SourceFault.stillRunning second).message.toList.head? = some 'P' := by
    unfold SourceFault.message
    iterate 2 apply head?_append_of_head?
    decide
  intro same
  rw [same, busy] at late
  cases late

/-- A run that reports that a node is still busy was told so. -/
theorem Transition.telling_of_stillRunning {system : System} {event : Event} {outcome : Outcome}
    {generation : Nat} {node : String} (transition : Transition system event outcome)
    (sends : outcome.sent =
      some (.fetchFailed generation node (SourceFault.stillRunning node).message)) :
    ∃ run fault rest, system.run? generation = some run ∧
      run.phase = .telling node (.error fault) rest ∧
      fault.message = (SourceFault.stillRunning node).message := by
  obtain ⟨run, base, next, found, -, move⟩ := transition.sent sends
  generalize told : some (Progress.fetchFailed generation node _) = message at move
  cases move with
  | @report _ result rest phase =>
    cases result with
    | ok entries => cases told
    | error fault =>
      simp only [Run.report, Option.some.injEq, Progress.fetchFailed.injEq] at told
      obtain ⟨rfl, rfl, same⟩ := told
      exact ⟨run, fault, rest, found, phase, same.symm⟩
  | _ => cases told

/-- At every moment no node has two fetches, and nodes are passed over only for the fetch that they
have. -/
structure Exclusion (past : List Occurrence) (system : System) : Prop where
  /-- The claimed nodes are those of the workers who have not let go. -/
  claimed_iff : ∀ node, node ∈ system.claimed ↔ ∃ worker ∈ unreleased past, worker.node = node
  /-- No node is claimed twice. -/
  claimed_nodup : system.claimed.Nodup
  /-- Tickets tell workers apart. -/
  distinct : ((hired past).map Worker.ticket).Nodup
  /-- No two workers who have not let go are at one node. -/
  alone : ((unreleased past).map Worker.node).Nodup
  /-- Nobody lets go more than once. -/
  once : ∀ worker ∈ hired past, releases worker.ticket past ≤ 1
  /-- Whoever has not let go can do so. -/
  able : ∀ worker ∈ unreleased past, (system.step (.release worker.ticket)).isSome
  /-- Whoever answers has let go once. -/
  answered : ∀ earlier occurrence later ticket result, past = earlier ++ occurrence :: later →
    occurrence.event = .answer ticket result → releases ticket earlier = 1
  /-- A run passes over a node only while a worker is there, who was sent off after all those
  workers to the node whose answers were got. -/
  refused : ∀ earlier occurrence later node, past = earlier ++ occurrence :: later →
    occurrence.refused? = some node →
    ∃ worker ∈ unreleased earlier, worker.node = node ∧
      ∀ done ∈ received earlier, done.node = node → done.ticket < worker.ticket
  /-- A run that reports that a node is still busy has just passed over the node, or has just got an
  answer of the node that says so; in between it did nothing. -/
  reported : ∀ earlier occurrence later generation node, past = earlier ++ occurrence :: later →
    occurrence.outcome.sent =
      some (.fetchFailed generation node (SourceFault.stillRunning node).message) →
    ∃ before cause since, earlier = before ++ cause :: since ∧
      cause.event.run? = some generation ∧
      (cause.refused? = some node ∨ ∃ worker, cause.received? = some worker ∧ worker.node = node) ∧
      ∀ other ∈ since, other.event.run? ≠ some generation
  /-- A worker whose answer was got had let go once. -/
  received : ∀ earlier occurrence later worker, past = earlier ++ occurrence :: later →
    occurrence.received? = some worker → releases worker.ticket earlier = 1

namespace History

variable {past : List Occurrence} {system : System}

/-- After every history, no node has two fetches, and nodes are passed over only for the fetch that
they have. -/
theorem exclusion (history : History past system) : Exclusion past system := by
  have roster := history.roster
  have exclusive := history.exclusive
  have distinct : ((hired past).map Worker.ticket).Nodup := by
    rw [roster.tickets]
    exact List.nodup_range
  refine ⟨fun node => ?claimed_iff, exclusive.claimed_nodup, distinct, ?alone,
    fun worker _ => roster.once worker.ticket, fun worker held => ?able, ?answered, ?refused,
    ?reported, ?received⟩
  case claimed_iff => simp only [exclusive.claimed_iff, roster.mem_unreleased]
  case alone =>
    refine List.Nodup.map_on (fun first isFirst second isSecond same => ?_)
      (distinct.of_map.filter _)
    exact exclusive.eq_of_node_eq ((roster.mem_unreleased first).mp isFirst)
      ((roster.mem_unreleased second).mp isSecond) same
  case able =>
    have busy := (roster.mem_unreleased worker).mp held
    rw [System.step, Option.isSome_map, List.find?_isSome]
    exact ⟨worker, busy, beq_self_eq_true _⟩
  case answered =>
    intro earlier occurrence later ticket result split event
    obtain ⟨before, happens⟩ := history.at_occurrence split
    have transition := System.transition_of_step happens
    rw [event] at transition
    exact before.roster.silent ticket transition.silent
  case refused =>
    intro earlier occurrence later node split passes
    obtain ⟨before, happens⟩ := history.at_occurrence split
    have claimed := (System.transition_of_step happens).claimed_of_refused passes
    obtain ⟨worker, busy, isAt⟩ := (before.exclusive.claimed_iff node).mp claimed
    refine ⟨worker, (before.roster.mem_unreleased worker).mpr busy, isAt, fun done got same => ?_⟩
    have onlyLater := (before.succession.received done got).2
    exact onlyLater.2 worker busy (isAt.trans same.symm)
  case reported =>
    intro earlier occurrence later generation node split sends
    obtain ⟨before, happens⟩ := history.at_occurrence split
    obtain ⟨run, fault, rest, found, phase, text⟩ :=
      (System.transition_of_step happens).telling_of_stillRunning sends
    obtain ⟨first, cause, since, parts, acts, tells, silent⟩ :=
      before.lastTold generation run node (.error fault) rest found phase
    refine ⟨first, cause, since, parts, acts, ?_, silent⟩
    cases tells with
    | refused passes => exact .inl passes
    | received gets isAt => exact .inr ⟨_, gets, isAt⟩
    | expired millis => exact absurd text (timeout_message_ne _ _ _)
  case received =>
    intro earlier occurrence later worker split gets
    obtain ⟨before, happens⟩ := history.at_occurrence split
    have transition := System.transition_of_step happens
    exact (before.succession.onlySince_received before.roster transition gets).1

/-- A run that was stopped just before it claims its node makes the next run wait for it. -/
theorem exclusion_overlapping :
    ∃ past system, History past system ∧
      past.flatMap (fun occurrence => occurrence.outcome.sent.toList) =
        [.started 1 1, .started 2 1,
          .fetchFailed 2 "a" (SourceFault.stillRunning "a").message, .page 2 "a" []] ∧
      Exclusion past system := by
  have happens : System.idle.schedule
      [.start ["a"] 50, .advance 1, .advance 1, .start ["a"] 50, .advance 1, .advance 2,
        .advance 2, .advance 2, .release 0, .advance 2, .advance 2, .advance 2, .advance 2,
        .answer 0 (some (.ok [])), .notice 1, .release 1, .answer 1 (some (.ok [])),
        .receive 2, .advance 2] = some (_, _, _) := rfl
  obtain ⟨past, history, -, sent, -⟩ := History.idle.extend happens
  exact ⟨past, _, history, sent, exclusion history⟩

end History

end QueryTail.Polling
