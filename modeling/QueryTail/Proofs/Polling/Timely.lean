import QueryTail.Proofs.Polling.History

/-!
# Fetches that answer in time

As long as nobody stops a run and every fetch answers in time, a run leaves nothing to chance: it
tells that it started, and then reports on its nodes one after the other, over and over
(`sent_of_timely`). However the run and its workers take turns, there is at most one worker at a
time, and what a node is reported with is what its fetch gives.
-/

namespace QueryTail.Polling

/-! ### Schedules without delays -/

/-- The event neither starts nor stops a run, no wait ends with it before its time, and an answer
that is waited for is what the fetch from the node gives. -/
def Event.InTime (fetch : String → Option FetchResult) (system : System) : Event → Prop
  | .start _ _ | .cancel | .stop | .expire _ | .notice _ => False
  | .answer ticket result =>
    ∀ run ∈ system.runs, ∀ node rest, run.phase = .fetching node ticket rest → result = fetch node
  | .take _ | .advance _ | .release _ | .receive _ => True

/-- What a system comes to by events in time, and the messages that are sent on the way. -/
inductive Timely (fetch : String → Option FetchResult) (first : System) :
    System → List Progress → Prop where
  | refl : Timely fetch first first []
  | next {system : System} {sent : List Progress} {event : Event} {outcome : Outcome}
      (earlier : Timely fetch first system sent) (inTime : event.InTime fetch system)
      (happens : system.step event = some outcome) :
      Timely fetch first outcome.system (sent ++ outcome.sent.toList)

/-- Events in time are a schedule. -/
theorem Timely.exists_schedule {fetch : String → Option FetchResult} {first system : System}
    {sent : List Progress} (timely : Timely fetch first system sent) :
    ∃ events taken, first.schedule events = some (system, sent, taken) := by
  induction timely with
  | refl => exact ⟨[], [], rfl⟩
  | @next system sent event outcome earlier inTime happens ih =>
    obtain ⟨events, taken, schedules⟩ := ih
    exact ⟨events ++ [event], _, System.schedule_concat schedules happens⟩

/-! ### What is sent -/

/-- The report of the first run on a node whose fetch answers. -/
def answerOf (fetch : String → Option FetchResult) (node : String) : Progress :=
  (Run.begin 1 [] 0).report node (System.resultOf node (fetch node))

section

variable (nodes : List String) (timeout : Nat) (fetch : String → Option FetchResult)

/-- The messages of a run that has some nodes left in its round: that it started, whole rounds, and
the part of the round that is done. -/
inductive Told (rest : List String) : List Progress → Prop where
  | told (rounds : Nat) {done : List String} (split : done ++ rest = nodes) :
      Told rest
        (.started 1 nodes.length ::
          ((List.replicate rounds (nodes.map (answerOf fetch))).flatten ++
            done.map (answerOf fetch)))

/-- What a run in a phase has sent. -/
def Phase.HasTold : Phase → List Progress → Prop
  | .starting, sent => sent = []
  | .asking rest, sent => Told nodes fetch rest sent
  | .claiming node rest, sent => Told nodes fetch (node :: rest) sent
  | .fetching node _ rest, sent => Told nodes fetch (node :: rest) sent
  | .telling node _ rest, sent => Told nodes fetch (node :: rest) sent
  | .stopping, _ => False
  | .ended, _ => False

/-! ### Who is at work -/

/-- There are no workers, and no answers either. -/
structure System.Unmanned (system : System) : Prop where
  claimed : system.claimed = []
  busy : system.busy = []
  silent : system.silent = []
  answers : system.answers = []

/-- How far the only worker is, who asks a node. -/
inductive System.Manned (system : System) (node : String) (ticket : Nat) : Prop where
  | busy (claimed : system.claimed = [node]) (busy : system.busy = [⟨ticket, node⟩])
      (silent : system.silent = []) (answers : system.answers = [])
  | silent (claimed : system.claimed = []) (busy : system.busy = [])
      (silent : system.silent = [ticket]) (answers : system.answers = [])
  | answered (claimed : system.claimed = []) (busy : system.busy = [])
      (silent : system.silent = []) (answers : system.answers = [(ticket, fetch node)])

/-- Who is at work while the only run is in a phase. -/
def Phase.HasCrew : Phase → System → Prop
  | .fetching node ticket _, system => system.Manned fetch node ticket
  | .telling node result _, system =>
    system.Unmanned ∧ result = System.resultOf node (fetch node)
  | _, system => system.Unmanned

/-- A system whose only run does its rounds and has sent some messages. -/
structure System.Steady (system : System) (sent : List Progress) (phase : Phase)
    (queue : List Progress) : Prop where
  runs : system.runs = [{ Run.begin 1 nodes timeout with phase, queue }]
  told : phase.HasTold nodes fetch sent
  crew : phase.HasCrew fetch system

end

variable {nodes rest : List String} {timeout : Nat} {fetch : String → Option FetchResult}
  {system : System} {sent : List Progress} {phase : Phase} {queue : List Progress}

namespace Told

/-- After the announcement of a run, a round is still to be done for all nodes. -/
theorem begin : Told nodes fetch nodes [.started 1 nodes.length] :=
  .told 0 (List.nil_append nodes)

/-- The report on the next node brings the round further. -/
theorem answer {node : String} (told : Told nodes fetch (node :: rest) sent) :
    Told nodes fetch rest (sent ++ [answerOf fetch node]) := by
  cases told with
  | @told rounds done split =>
    rw [List.cons_append, List.append_assoc, ← List.map_singleton, ← List.map_append]
    refine .told rounds ?_
    rw [List.append_assoc, List.singleton_append, split]

/-- When no nodes are left, another round can begin. -/
theorem again (told : Told nodes fetch [] sent) : Told nodes fetch nodes sent := by
  cases told with
  | @told rounds done split =>
    obtain rfl : done = nodes := by rw [← split, List.append_nil]
    have longer := @Told.told done fetch done (rounds + 1) [] (List.nil_append done)
    simpa [List.replicate_succ'] using longer

end Told

namespace System

variable {node : String} {ticket : Nat}

/-- Where nobody is at work, a change of a run puts nobody to work. -/
theorem Unmanned.setRun (unmanned : system.Unmanned) (run : Run) : (system.setRun run).Unmanned :=
  ⟨unmanned.claimed, unmanned.busy, unmanned.silent, unmanned.answers⟩

/-- A change of a run leaves the worker of a node at work. -/
theorem Manned.setRun (manned : system.Manned fetch node ticket) (run : Run) :
    (system.setRun run).Manned fetch node ticket := by
  cases manned with
  | busy claimed busy silent answers => exact .busy claimed busy silent answers
  | silent claimed busy silent answers => exact .silent claimed busy silent answers
  | answered claimed busy silent answers => exact .answered claimed busy silent answers

/-- Who is at work is no matter of the runs. -/
theorem hasCrew_setRun (crew : phase.HasCrew fetch system)
    (run : Run) : phase.HasCrew fetch (system.setRun run) := by
  cases phase with
  | fetching node ticket rest => exact Manned.setRun crew run
  | telling node result rest => exact ⟨crew.1.setRun run, crew.2⟩
  | _ => exact Unmanned.setRun crew run

end System

namespace System.Steady

/-- The only run is found. -/
theorem eq_of_run? {run : Run} (steady : system.Steady nodes timeout fetch sent phase queue)
    (found : system.run? run.generation = some run) :
    run = { Run.begin 1 nodes timeout with phase, queue } := by
  have among := List.mem_of_find?_eq_some found
  rw [steady.runs] at among
  exact List.mem_singleton.mp among

end System.Steady

/-- At the beginning the only run has not told anything. -/
theorem steady_startRun (nodes : List String) (timeout : Nat)
    (fetch : String → Option FetchResult) :
    (System.idle.startRun nodes timeout).Steady nodes timeout fetch [] .starting [] :=
  ⟨rfl, rfl, rfl, rfl, rfl, rfl⟩

/-- The only run goes on to another phase, and perhaps sends a message. -/
theorem steady_settle {base : System} {message : Option Progress} {next : Phase}
    (runs : base.runs = [{ Run.begin 1 nodes timeout with phase, queue }])
    (told : next.HasTold nodes fetch (sent ++ message.toList))
    (crew : next.HasCrew fetch base) :
    let run := { Run.begin 1 nodes timeout with phase, queue }
    let outcome := base.settle (run.after message next)
    ∃ queue, outcome.system.Steady nodes timeout fetch (sent ++ outcome.sent.toList) next
      queue := by
  intro run outcome
  have only (after : Run) (same : after.generation = 1) : (base.setRun after).runs = [after] := by
    simp [System.setRun, runs, Run.begin, same]
  cases message with
  | none => exact ⟨queue, only _ rfl, told, System.hasCrew_setRun crew _⟩
  | some message => exact ⟨queue ++ [message], only _ rfl, told, System.hasCrew_setRun crew _⟩

/-- An action of the only run keeps it steady. -/
theorem Move.steady {run : Run} {event : Event} {base : System} {message : Option Progress}
    {next : Phase} (move : Move system run event base message next)
    (steady : system.Steady nodes timeout fetch sent phase queue)
    (inTime : event.InTime fetch system)
    (only : run = { Run.begin 1 nodes timeout with phase, queue }) :
    let outcome := base.settle (run.after message next)
    ∃ queue, outcome.system.Steady nodes timeout fetch (sent ++ outcome.sent.toList) next queue := by
  obtain ⟨runs, told, crew⟩ := steady
  subst only
  cases move with
  | tell here =>
    obtain rfl : phase = .starting := here
    obtain rfl : sent = [] := told
    exact steady_settle runs .begin crew
  | obey here cancelled => cases cancelled
  | wake here =>
    obtain rfl : phase = .asking [] := here
    refine steady_settle runs ?_ crew
    rw [Option.toList_none, List.append_nil]
    exact Told.again told
  | turn here =>
    obtain rfl : phase = _ := here
    refine steady_settle runs ?_ crew
    rwa [Option.toList_none, List.append_nil]
  | refuse here claimed =>
    obtain rfl : phase = _ := here
    rw [crew.claimed] at claimed
    cases claimed
  | claim here free =>
    obtain rfl : phase = _ := here
    refine steady_settle runs ?_ (.busy ?_ ?_ crew.silent crew.answers)
    · rwa [Option.toList_none, List.append_nil]
    · exact congrArg (_ :: ·) crew.claimed
    · exact congrArg (_ :: ·) crew.busy
  | @receive node ticket rest answer here answered =>
    obtain rfl : phase = _ := here
    cases crew with
    | busy claimed busy silent answers | silent claimed busy silent answers =>
      rw [answers] at answered
      cases answered
    | answered claimed busy silent answers =>
      rw [answers] at answered
      obtain rfl : answer = fetch node := (Prod.mk.inj (List.mem_singleton.mp answered)).2
      refine steady_settle runs ?_ ⟨⟨claimed, busy, silent, ?_⟩, rfl⟩
      · rwa [Option.toList_none, List.append_nil]
      · simp [System.forget, answers]
  | expire => exact absurd inTime id
  | notice => exact absurd inTime id
  | report here =>
    obtain rfl : phase = _ := here
    obtain ⟨unmanned, rfl⟩ := crew
    exact steady_settle runs (Told.answer told) unmanned
  | finish here =>
    obtain rfl : phase = _ := here
    exact absurd told id

namespace System.Steady

/-- The worker lets go of its node. -/
theorem letGo {worker : Worker} (steady : system.Steady nodes timeout fetch sent phase queue)
    (busy : worker ∈ system.busy) :
    (system.letGo worker).Steady nodes timeout fetch sent phase queue := by
  obtain ⟨runs, told, crew⟩ := steady
  refine ⟨runs, told, ?_⟩
  cases phase with
  | fetching node ticket rest =>
    cases crew with
    | busy claimed isBusy silent answers =>
      rw [isBusy] at busy
      obtain rfl := List.mem_singleton.mp busy
      refine .silent ?_ ?_ ?_ answers <;> simp [System.letGo, claimed, isBusy, silent]
    | silent claimed isBusy | answered claimed isBusy =>
      rw [isBusy] at busy
      cases busy
  | telling node result rest =>
    rw [crew.1.busy] at busy
    cases busy
  | _ =>
    rw [System.Unmanned.busy crew] at busy
    cases busy

/-- The worker answers, and the run waits for the answer. -/
theorem record {ticket : Nat} {result : Option FetchResult}
    (steady : system.Steady nodes timeout fetch sent phase queue)
    (silent : ticket ∈ system.silent)
    (inTime : (Event.answer ticket result).InTime fetch system) :
    (system.record ticket result).Steady nodes timeout fetch sent phase queue := by
  obtain ⟨runs, told, crew⟩ := steady
  refine ⟨runs, told, ?_⟩
  cases phase with
  | fetching node awaited rest =>
    cases crew with
    | silent claimed busy isSilent answers =>
      rw [isSilent] at silent
      obtain rfl := List.mem_singleton.mp silent
      have waits : system.isAwaited ticket = true := by simp [isAwaited, runs]
      have right : result = fetch node :=
        inTime _ (runs ▸ List.mem_singleton_self _) node rest rfl
      refine .answered claimed busy ?_ ?_
      · simp [System.record, isSilent]
      · simp [System.record, waits, answers, right]
    | busy claimed busy isSilent | answered claimed busy isSilent =>
      rw [isSilent] at silent
      cases silent
  | telling node result rest =>
    rw [crew.1.silent] at silent
    cases silent
  | _ =>
    rw [System.Unmanned.silent crew] at silent
    cases silent

/-- Whatever happens in time, the only run goes on with its rounds. -/
theorem step {event : Event} {outcome : Outcome}
    (steady : system.Steady nodes timeout fetch sent phase queue)
    (inTime : event.InTime fetch system) (happens : system.step event = some outcome) :
    ∃ phase queue,
      outcome.system.Steady nodes timeout fetch (sent ++ outcome.sent.toList) phase queue := by
  cases System.transition_of_step happens with
  | start | cancel | stop => exact absurd inTime id
  | take budget =>
    dsimp only
    rw [Option.toList_none, List.append_nil]
    rcases system.takeMessages_cases budget with ⟨run, -, found, takes⟩ | ⟨-, takes⟩
    · obtain rfl := steady.eq_of_run? found
      rw [takes]
      refine ⟨phase, queue.drop budget, ?_, steady.told, System.hasCrew_setRun steady.crew _⟩
      simp [System.setRun, steady.runs, Run.begin]
    · rw [takes]
      exact ⟨phase, queue, steady⟩
  | release busy =>
    dsimp only
    rw [Option.toList_none, List.append_nil]
    exact ⟨phase, queue, steady.letGo busy⟩
  | answer result silent =>
    dsimp only
    rw [Option.toList_none, List.append_nil]
    exact ⟨phase, queue, steady.record silent inTime⟩
  | move found move =>
    obtain ⟨queue, steady⟩ := move.steady steady inTime (steady.eq_of_run? found)
    exact ⟨_, queue, steady⟩

end System.Steady

/-- As long as every fetch answers in time, the only run goes on with its rounds. -/
theorem Timely.steady
    (timely : Timely fetch (System.idle.startRun nodes timeout) system sent) :
    ∃ phase queue, system.Steady nodes timeout fetch sent phase queue := by
  induction timely with
  | refl => exact ⟨_, _, steady_startRun nodes timeout fetch⟩
  | next earlier inTime happens ih =>
    obtain ⟨phase, queue, steady⟩ := ih
    exact steady.step inTime happens

/-- As long as every fetch answers in time, a run that is started first of all has sent nothing, or
that it started and then reports on its nodes, round after round. -/
theorem sent_of_timely
    (timely : Timely fetch (System.idle.startRun nodes timeout) system sent) :
    sent = [] ∨ ∃ rest, Told nodes fetch rest sent := by
  obtain ⟨phase, queue, -, told, -⟩ := timely.steady
  cases phase with
  | starting => exact .inl told
  | asking rest => exact .inr ⟨rest, told⟩
  | claiming node rest | fetching node ticket rest | telling node result rest =>
    exact .inr ⟨_, told⟩
  | stopping | ended => exact absurd told id

/-! ### A whole round -/

/-- A system whose only run is in a phase while nobody is at work. -/
def readySystem (nodes : List String) (timeout : Nat) (phase : Phase) (queue : List Progress)
    (tickets : Nat) : System :=
  { System.idle with
    generation := 1
    current := some 1
    runs := [{ Run.begin 1 nodes timeout with phase, queue }]
    tickets }

/-- An event that sends nothing. -/
theorem Timely.quiet {first after : System} (earlier : Timely fetch first system sent)
    (event : Event) (inTime : event.InTime fetch system)
    (happens : system.step event = some ⟨after, none, []⟩) : Timely fetch first after sent := by
  have later := earlier.next inTime happens
  rwa [Option.toList_none, List.append_nil] at later

/-- An event that sends a message. -/
theorem Timely.speak {first after : System} {message : Progress}
    (earlier : Timely fetch first system sent) (event : Event) (inTime : event.InTime fetch system)
    (happens : system.step event = some ⟨after, some message, []⟩) :
    Timely fetch first after (sent ++ [message]) :=
  earlier.next inTime happens

/-- A node is asked, its worker lets go of it and answers, and the run reports. -/
theorem timely_turn {first : System} {node : String} {tickets : Nat}
    (earlier : Timely fetch first
      (readySystem nodes timeout (.asking (node :: rest)) queue tickets) sent) :
    Timely fetch first
      (readySystem nodes timeout (.asking rest) (queue ++ [answerOf fetch node])
        (tickets + 1))
      (sent ++ [answerOf fetch node]) := by
  let result := System.resultOf node (fetch node)
  let waiting := readySystem nodes timeout (.fetching node tickets rest) queue (tickets + 1)
  let worker : Worker := ⟨tickets, node⟩
  have claims : Timely fetch first
      (readySystem nodes timeout (.claiming node rest) queue tickets) sent :=
    earlier.quiet (.advance 1) trivial rfl
  have asks : Timely fetch first { waiting with claimed := [node], busy := [worker] } sent :=
    claims.quiet (.advance 1) trivial rfl
  have lets : Timely fetch first { waiting with silent := [tickets] } sent := by
    refine asks.quiet (.release tickets) trivial ?_
    simp [System.step, System.letGo, waiting, readySystem, System.idle, worker]
  have answers : Timely fetch first { waiting with answers := [(tickets, fetch node)] } sent := by
    refine lets.quiet (.answer tickets (fetch node)) ?_ ?_
    · intro run among other others phase
      obtain rfl := List.mem_singleton.mp among
      obtain ⟨rfl, -⟩ := Phase.fetching.inj phase
      rfl
    · simp [System.step, System.record, System.isAwaited, waiting, readySystem, System.idle]
  have receives : Timely fetch first
      (readySystem nodes timeout (.telling node result rest) queue (tickets + 1)) sent := by
    refine answers.quiet (.receive 1) trivial ?_
    simp [System.step, System.run?, System.conclude, System.forget, System.settle, System.setRun,
      Run.goTo, waiting, readySystem, System.idle, Run.begin, result]
  exact receives.speak (.advance 1) trivial rfl

/-- From anywhere in a round its end can be reached in time. -/
theorem exists_timely_asked {first : System} {tickets : Nat}
    (earlier : Timely fetch first (readySystem nodes timeout (.asking rest) queue tickets) sent) :
    ∃ last, Timely fetch first last (sent ++ rest.map (answerOf fetch)) := by
  induction rest generalizing queue tickets sent with
  | nil => exact ⟨_, (List.append_nil sent).symm ▸ earlier⟩
  | cons node rest ih =>
    obtain ⟨last, timely⟩ := ih (timely_turn earlier)
    rw [List.append_assoc, List.singleton_append] at timely
    exact ⟨last, timely⟩

/-- A whole round can be reached in time. -/
theorem exists_timely_round (nodes : List String) (timeout : Nat)
    (fetch : String → Option FetchResult) :
    ∃ last, Timely fetch (System.idle.startRun nodes timeout) last
      (.started 1 nodes.length :: nodes.map (answerOf fetch)) := by
  have starts : Timely fetch (System.idle.startRun nodes timeout)
      (readySystem nodes timeout (.asking nodes) [.started 1 nodes.length] 0)
      [.started 1 nodes.length] :=
    Timely.refl.speak (.advance 1) trivial rfl
  exact exists_timely_asked starts

end QueryTail.Polling
