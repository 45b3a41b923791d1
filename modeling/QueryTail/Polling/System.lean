import QueryTail.View

/-!
# Polling

A polling run asks its nodes one after the other, in rounds, and sends what it gets to whoever
listens. Every fetch is made by a worker of its own, which the run leaves behind when the fetch
takes too long; a node whose worker is still at it is not asked again, by this run or by any later
one.

Runs and workers go on independently of each other and of the one who starts and stops runs. The
system below is all of them together: an event is one indivisible action of one of them, and a
schedule is a list of events in the order in which they happen. An event that cannot happen in a
state is refused. What the events leave open, such as how long a fetch takes or what it gives, is
what the world decides.

An event of a run or of a worker reads or changes at most one thing that others change as well:
whether a run was told to stop, which nodes are claimed, what was answered, which messages were
sent. So a run first finds out what there is to tell, and tells it in a later event; in between
anything can happen to the others. Telling a run to stop and ceasing to listen are two actions when
`Event.cancel` comes before `Event.stop` or `Event.start`.

A worker lets go of its node before it answers. So whoever has an answer can be sure that the node
is free.
-/

namespace QueryTail.Polling

/-- What a fetch gives: entries, newest first, or a fault. -/
abbrev FetchResult := Except SourceFault (List Entry)

/-- What a run does at the moment. -/
inductive Phase where
  /-- It has not told yet that it started. -/
  | starting
  /-- It is about to look whether it was told to stop; these nodes are left in this round. -/
  | asking (rest : List String)
  /-- It was not told to stop when it looked, and is about to ask a node; other nodes are left. -/
  | claiming (node : String) (rest : List String)
  /-- It waits for the worker with a ticket, who asks a node; other nodes are left. -/
  | fetching (node : String) (ticket : Nat) (rest : List String)
  /-- It knows what came of asking a node, and is about to tell; other nodes are left. -/
  | telling (node : String) (result : FetchResult) (rest : List String)
  /-- It was told to stop when it looked, and is about to tell that it stops. -/
  | stopping
  | ended

/-- A polling run. -/
structure Run where
  generation : Nat
  nodes : List String
  /-- How long a fetch may take, in milliseconds. -/
  timeout : Nat
  phase : Phase
  /-- The run was told to stop. -/
  cancelled : Bool
  /-- Somebody listens to the run. -/
  heard : Bool
  /-- The messages that nobody has taken yet, oldest first. -/
  queue : List Progress

/-- A worker, known by its ticket, who asks a node. -/
structure Worker where
  ticket : Nat
  node : String
  deriving DecidableEq

/-- All runs and workers. -/
structure System where
  /-- The generation of the run that was started last. -/
  generation : Nat
  /-- The generation of the run that was started and not stopped, if there is one. -/
  current : Option Nat
  /-- The runs, last started first. -/
  runs : List Run
  /-- The nodes that workers are at. -/
  claimed : List String
  /-- The workers who have not let go of their nodes. -/
  busy : List Worker
  /-- The tickets of the workers who have let go but have not answered. -/
  silent : List Nat
  /-- The answers that a run waits for and has not got yet, by ticket; `none` stands for a worker
  who ended without one. -/
  answers : List (Nat × Option FetchResult)
  /-- The ticket of the next worker. -/
  tickets : Nat

/-- One indivisible action. Runs are known by their generations. -/
inductive Event where
  /-- A run is started; the one before is stopped. -/
  | start (nodes : List String) (timeout : Nat)
  /-- The current run is told to stop; its messages can still be taken. -/
  | cancel
  /-- The current run is told to stop, and nobody listens to it any more. -/
  | stop
  /-- Messages of the current run are taken, at most so many. -/
  | take (budget : Nat)
  /-- A run goes on where it waits for nobody. -/
  | advance (run : Nat)
  /-- A worker lets go of its node. -/
  | release (ticket : Nat)
  /-- A worker who has let go of its node answers or, with `none`, ends without an answer, as one
  that could not begin does. An answer that no run waits for is lost. -/
  | answer (ticket : Nat) (result : Option FetchResult)
  /-- A run gets the answer that it waits for. -/
  | receive (run : Nat)
  /-- A run has waited too long. -/
  | expire (run : Nat)
  /-- A run that waits for a worker notices that it was told to stop. -/
  | notice (run : Nat)

/-- What is left behind by an event: the system, the message that was sent, and the messages that
were taken. -/
structure Outcome where
  system : System
  sent : Option Progress
  taken : List Progress

namespace Run

/-- A run that was just started. -/
def begin (generation : Nat) (nodes : List String) (timeout : Nat) : Run :=
  { generation, nodes, timeout, phase := .starting, cancelled := false, heard := true, queue := [] }

/-- Send a message and go on; a run that nobody listens to ends instead. -/
def send (run : Run) (message : Progress) (next : Phase) : Run × Option Progress :=
  if run.heard then ({ run with queue := run.queue ++ [message], phase := next }, some message)
  else ({ run with phase := .ended }, none)

/-- Go on without a message. -/
def goTo (run : Run) (next : Phase) : Run × Option Progress :=
  ({ run with phase := next }, none)

/-- The message about what a fetch gave. -/
def report (run : Run) (node : String) : FetchResult → Progress
  | .ok entries => .page run.generation node entries
  | .error fault => .fetchFailed run.generation node fault.message

end Run

namespace System

/-- Nothing was started yet. -/
def idle : System :=
  { generation := 0, current := none, runs := [], claimed := [], busy := [], silent := []
    answers := [], tickets := 0 }

/-- The run of a generation. -/
def run? (system : System) (generation : Nat) : Option Run :=
  system.runs.find? fun run => run.generation == generation

/-- The system with a run in place of the one of the same generation. -/
def setRun (system : System) (run : Run) : System :=
  { system with
    runs := system.runs.map fun held => if held.generation = run.generation then run else held }

/-- The system after a run did something, and the message that it sent. -/
def settle (system : System) (result : Run × Option Progress) : Outcome :=
  ⟨system.setRun result.1, result.2, []⟩

/-- Tell the current run to stop. -/
def cancelCurrent (system : System) : System :=
  match system.current with
  | none => system
  | some generation =>
    { system with
      runs := system.runs.map fun run =>
        if run.generation = generation then { run with cancelled := true } else run }

/-- Stop the current run: it is told so, and nobody listens to it any more. -/
def stopCurrent (system : System) : System :=
  match system.current with
  | none => system
  | some generation =>
    { system with
      current := none
      runs := system.runs.map fun run =>
        if run.generation = generation then
          { run with cancelled := true, heard := false, queue := [] }
        else run }

/-- Start a run of the next generation. -/
def startRun (system : System) (nodes : List String) (timeout : Nat) : System :=
  let system := system.stopCurrent
  let generation := system.generation + 1
  { system with
    generation
    current := some generation
    runs := .begin generation nodes timeout :: system.runs }

/-- Take messages of the current run, oldest first. -/
def takeMessages (system : System) (budget : Nat) : System × List Progress :=
  match system.current.bind system.run? with
  | none => (system, [])
  | some run =>
    (system.setRun { run with queue := run.queue.drop budget }, run.queue.take budget)

/-- The system with another worker, who is at a node. -/
def dispatch (system : System) (node : String) : System :=
  { system with
    claimed := node :: system.claimed
    busy := ⟨system.tickets, node⟩ :: system.busy
    tickets := system.tickets + 1 }

/-- A run asks a node, unless a worker is still at it. -/
def ask (system : System) (run : Run) (node : String) (rest : List String) : Outcome :=
  if system.claimed.contains node then
    system.settle (run.goTo (.telling node (.error (.stillRunning node)) rest))
  else
    (system.dispatch node).settle (run.goTo (.fetching node system.tickets rest))

/-- A run goes on: it tells what there is to tell, or looks whether it was told to stop, or asks a
node. If it was not told to stop it turns to the next node or begins another round. -/
def advanceRun (system : System) (run : Run) : Option Outcome :=
  match run.phase with
  | .starting =>
    some (system.settle (run.send (.started run.generation run.nodes.length) (.asking run.nodes)))
  | .asking rest =>
    if run.cancelled then some (system.settle (run.goTo .stopping))
    else match rest with
      | [] => some (system.settle (run.goTo (.asking run.nodes)))
      | node :: rest => some (system.settle (run.goTo (.claiming node rest)))
  | .claiming node rest => some (system.ask run node rest)
  | .fetching _ _ _ => none
  | .telling node result rest =>
    some (system.settle (run.send (run.report node result) (.asking rest)))
  | .stopping => some (system.settle (run.send (.stopped run.generation) .ended))
  | .ended => none

/-- The system without the answer of a worker, which nobody will ask for again. -/
def forget (system : System) (ticket : Nat) : System :=
  { system with answers := system.answers.filter fun answer => answer.1 != ticket }

/-- A run does not wait any longer for the worker with a ticket, and goes on. -/
def conclude (system : System) (run : Run) (ticket : Nat) (next : Phase) : Outcome :=
  (system.forget ticket).settle (run.goTo next)

/-- A run waits for the worker with a ticket. -/
def isAwaited (system : System) (ticket : Nat) : Bool :=
  system.runs.any fun run =>
    match run.phase with
    | .fetching _ awaited _ => awaited == ticket
    | _ => false

/-- The system after a worker let go of its node. -/
def letGo (system : System) (worker : Worker) : System :=
  { system with
    claimed := system.claimed.erase worker.node
    busy := system.busy.erase worker
    silent := worker.ticket :: system.silent }

/-- The system after a worker who had let go of its node answered. -/
def record (system : System) (ticket : Nat) (result : Option FetchResult) : System :=
  let kept := if system.isAwaited ticket then [(ticket, result)] else []
  { system with
    silent := system.silent.erase ticket
    answers := kept ++ system.answers }

/-- What an answer means for a run. -/
def resultOf (node : String) (answer : Option FetchResult) : FetchResult :=
  answer.getD (.error (.disconnected node))

/-- The system after an event, if the event can happen. -/
def step (system : System) : Event → Option Outcome
  | .start nodes timeout => some ⟨system.startRun nodes timeout, none, []⟩
  | .cancel => some ⟨system.cancelCurrent, none, []⟩
  | .stop => some ⟨system.stopCurrent, none, []⟩
  | .take budget =>
    let (system, taken) := system.takeMessages budget
    some ⟨system, none, taken⟩
  | .advance generation => (system.run? generation).bind system.advanceRun
  | .release ticket =>
    (system.busy.find? fun worker => worker.ticket == ticket).map fun worker =>
      ⟨system.letGo worker, none, []⟩
  | .answer ticket result =>
    if system.silent.contains ticket then some ⟨system.record ticket result, none, []⟩ else none
  | .receive generation => do
    let run ← system.run? generation
    match run.phase with
    | .fetching node ticket rest =>
      let answer ← system.answers.find? fun answer => answer.1 == ticket
      some (system.conclude run ticket (.telling node (resultOf node answer.2) rest))
    | _ => none
  | .expire generation => do
    let run ← system.run? generation
    match run.phase with
    | .fetching node ticket rest =>
      some (system.conclude run ticket (.telling node (.error (.timeout node run.timeout)) rest))
    | _ => none
  | .notice generation => do
    let run ← system.run? generation
    match run.phase with
    | .fetching _ ticket _ =>
      if run.cancelled then some (system.conclude run ticket .stopping) else none
    | _ => none

/-- The system after a schedule, with the messages sent and the messages taken on the way, oldest
first; none if one of the events cannot happen. -/
def schedule (system : System) : List Event → Option (System × List Progress × List Progress)
  | [] => some (system, [], [])
  | event :: rest => do
    let outcome ← system.step event
    let (system, sent, taken) ← outcome.system.schedule rest
    some (system, outcome.sent.toList ++ sent, outcome.taken ++ taken)

/-- A system that some schedule leads to from the beginning. -/
def Reachable (system : System) : Prop :=
  ∃ events sent taken, idle.schedule events = some (system, sent, taken)

end System

end QueryTail.Polling
