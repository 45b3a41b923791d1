import Mathlib.Data.List.Forall2
import QueryTail.Proofs.Polling.Effect

/-!
# What a run tells, and what is taken of it

A run tells that it started, then reports on its nodes one after the other, round after round, and
tells at most once that it stopped. Whatever is taken while the run is current is taken in that
order and without gaps; once another run was started or the run was stopped, nothing of it is taken
any more.

`Run.Account` says of one run what its phase and its queue have to do with the messages that it has
sent and with those that were taken. It is kept by everything that happens to the run, whatever the
other runs, the workers and the listener do in between.
-/

namespace QueryTail.Polling

/-! ### Protocols -/

/-- A message about what a fetch from a node gave. -/
inductive IsReport (generation : Nat) (node : String) : Progress → Prop where
  | page (entries : List Entry) : IsReport generation node (.page generation node entries)
  | failed (text : String) : IsReport generation node (.fetchFailed generation node text)

/-- The messages of a run from the beginning: that it started, rounds of reports on all nodes, a
round that may have got only so far, and perhaps that it stopped. -/
inductive Protocol (generation : Nat) (nodes : List String) : List Progress → Prop where
  | silent : Protocol generation nodes []
  | told {rounds : List (List Progress)} {done : List String} {last ending : List Progress}
      (full : ∀ round ∈ rounds, List.Forall₂ (IsReport generation) nodes round)
      (isPrefix : done <+: nodes) (reports : List.Forall₂ (IsReport generation) done last)
      (ends : ending = [] ∨ ending = [.stopped generation]) :
      Protocol generation nodes
        (.started generation nodes.length :: (rounds.flatten ++ last ++ ending))

/-- The messages of a run that has some nodes left in its round. -/
inductive InRound (generation : Nat) (nodes rest : List String) : List Progress → Prop where
  | told {rounds : List (List Progress)} {done : List String} {last : List Progress}
      (full : ∀ round ∈ rounds, List.Forall₂ (IsReport generation) nodes round)
      (split : done ++ rest = nodes) (reports : List.Forall₂ (IsReport generation) done last) :
      InRound generation nodes rest
        (.started generation nodes.length :: (rounds.flatten ++ last))

namespace Run

/-- What a run says of a fetch is a report on the node. -/
theorem isReport_report (run : Run) (node : String) (result : FetchResult) :
    IsReport run.generation node (run.report node result) := by
  cases result with
  | ok entries => exact .page entries
  | error fault => exact .failed fault.message

end Run

/-- A report carries the generation of the run. -/
theorem IsReport.generation_eq {generation : Nat} {node : String} {message : Progress}
    (report : IsReport generation node message) : message.generation = generation := by
  cases report <;> rfl

section

variable {generation : Nat} {nodes rest : List String} {sent : List Progress}

/-- Reports on whichever nodes carry the generation of the run. -/
theorem generation_of_reports {last : List Progress} {message : Progress}
    (reports : List.Forall₂ (IsReport generation) nodes last) (isMember : message ∈ last) :
    message.generation = generation := by
  induction reports with
  | nil => cases isMember
  | cons report _ hypothesis =>
    rcases List.mem_cons.mp isMember with rfl | later
    · exact report.generation_eq
    · exact hypothesis later

/-- Every message of a run carries its generation. -/
theorem Protocol.generation_eq (protocol : Protocol generation nodes sent) :
    ∀ message ∈ sent, message.generation = generation := by
  cases protocol with
  | silent => simp
  | @told rounds done last ending full _ reports ends =>
    intro message isMember
    simp only [List.mem_cons, List.mem_append, List.mem_flatten] at isMember
    rcases isMember with rfl | (⟨round, isRound, inRound⟩ | inLast) | isEnding
    · rfl
    · exact generation_of_reports (full round isRound) inRound
    · exact generation_of_reports reports inLast
    · rcases ends with rfl | rfl
      · cases isEnding
      · obtain rfl := List.mem_singleton.mp isEnding
        rfl

namespace InRound

/-- The first round begins when the run has told that it started. -/
theorem begin : InRound generation nodes nodes [.started generation nodes.length] :=
  @InRound.told generation nodes nodes [] [] [] (by simp) rfl .nil

/-- A report on the next node brings the round further. -/
theorem report {node : String} {message : Progress}
    (inRound : InRound generation nodes (node :: rest) sent)
    (isReport : IsReport generation node message) :
    InRound generation nodes rest (sent ++ [message]) := by
  cases inRound with
  | @told rounds done last full split reports =>
    rw [List.cons_append, List.append_assoc]
    refine .told full ?_ (List.rel_append reports (.cons isReport .nil))
    rw [List.append_assoc, List.singleton_append, split]

/-- When no nodes are left, another round can begin. -/
theorem again (inRound : InRound generation nodes [] sent) :
    InRound generation nodes nodes sent := by
  cases inRound with
  | @told rounds done last full split reports =>
    obtain rfl : done = nodes := by rw [← split, List.append_nil]
    have longer : ∀ round ∈ rounds ++ [last], List.Forall₂ (IsReport generation) done round := by
      intro round isMember
      rcases List.mem_append.mp isMember with before | isLast
      · exact full round before
      · obtain rfl := List.mem_singleton.mp isLast
        exact reports
    have whole := InRound.told longer (List.nil_append done) .nil
    simpa using whole

/-- In a round the protocol is followed. -/
theorem protocol (inRound : InRound generation nodes rest sent) :
    Protocol generation nodes sent := by
  cases inRound with
  | told full split reports =>
    have whole := Protocol.told full ⟨rest, split⟩ reports (.inl rfl)
    rwa [List.append_nil] at whole

/-- In a round the run may tell that it stopped. -/
theorem protocol_stopped (inRound : InRound generation nodes rest sent) :
    Protocol generation nodes (sent ++ [.stopped generation]) := by
  cases inRound with
  | told full split reports => exact .told full ⟨rest, split⟩ reports (.inr rfl)

end InRound

end

/-! ### One run -/

/-- What a run in a phase has sent. -/
def Phase.Spoken (generation : Nat) (nodes : List String) : Phase → List Progress → Prop
  | .starting, sent => sent = []
  | .asking rest, sent => InRound generation nodes rest sent
  | .claiming node rest, sent => InRound generation nodes (node :: rest) sent
  | .fetching node _ rest, sent => InRound generation nodes (node :: rest) sent
  | .telling node _ rest, sent => InRound generation nodes (node :: rest) sent
  | .stopping, sent => ∃ rest, InRound generation nodes rest sent
  | .ended, sent => Protocol generation nodes sent

/-- In every phase the protocol is followed. -/
theorem Phase.Spoken.protocol {generation : Nat} {nodes : List String} {phase : Phase}
    {sent : List Progress} (spoken : phase.Spoken generation nodes sent) :
    Protocol generation nodes sent := by
  cases phase with
  | starting =>
    obtain rfl : sent = [] := spoken
    exact .silent
  | asking rest => exact InRound.protocol spoken
  | claiming node rest => exact InRound.protocol spoken
  | fetching node ticket rest => exact InRound.protocol spoken
  | telling node result rest => exact InRound.protocol spoken
  | stopping =>
    obtain ⟨rest, inRound⟩ := spoken
    exact inRound.protocol
  | ended => exact spoken

/-- A run that is stopping or has ended is not going to ask any node. -/
def Phase.IsLast : Phase → Prop
  | .stopping => True
  | .ended => True
  | _ => False

/-- An action makes a run stop only if it was told to, or if it was stopping already. -/
theorem Move.cancelled_of_isLast {system base : System} {run : Run} {event : Event}
    {message : Option Progress} {next : Phase} (move : Move system run event base message next)
    (last : next.IsLast) : run.cancelled = true ∨ run.phase.IsLast := by
  cases move with
  | obey phase cancelled => exact .inl cancelled
  | notice phase cancelled => exact .inl cancelled
  | finish phase => exact .inr (phase ▸ trivial)
  | _ => cases last

namespace Run

/-- What a run has to do with the messages that it has sent and with those that were taken while it
was current. -/
structure Account (run : Run) (sent taken : List Progress) : Prop where
  spoken : run.phase.Spoken run.generation run.nodes sent
  queued : run.heard = true → sent = taken ++ run.queue
  isPrefix : taken <+: sent
  /-- A run that somebody listens to stops only if it was told to. -/
  obedient : run.heard = true → run.phase.IsLast → run.cancelled = true

namespace Account

variable {run : Run} {sent taken : List Progress}

/-- A run begins with nothing sent and nothing taken. -/
theorem begin (generation : Nat) (nodes : List String) (timeout : Nat) :
    (Run.begin generation nodes timeout).Account [] [] :=
  ⟨rfl, fun _ => rfl, List.prefix_rfl, fun _ => nofun⟩

/-- Being told to stop does not change what was sent. -/
theorem cancel (account : run.Account sent taken) :
    { run with cancelled := true }.Account sent taken :=
  ⟨account.spoken, account.queued, account.isPrefix, fun _ _ => rfl⟩

/-- When nobody listens any more, what was taken stays the beginning of what was sent. -/
theorem stop (account : run.Account sent taken) :
    { run with cancelled := true, heard := false, queue := [] }.Account sent taken :=
  ⟨account.spoken, nofun, account.isPrefix, nofun⟩

/-- What is taken is the oldest part of what is left. -/
theorem take (account : run.Account sent taken) (heard : run.heard = true) (budget : Nat) :
    { run with queue := run.queue.drop budget }.Account sent
      (taken ++ run.queue.take budget) := by
  have whole : sent = taken ++ run.queue.take budget ++ run.queue.drop budget := by
    rw [List.append_assoc, List.take_append_drop]
    exact account.queued heard
  exact ⟨account.spoken, fun _ => whole, ⟨_, whole.symm⟩, account.obedient⟩

/-- What a run goes on to say fits its new phase. -/
theorem spoken_of_move {system base : System} {event : Event} {message : Option Progress}
    {next : Phase} (account : run.Account sent taken)
    (move : Move system run event base message next) :
    next.Spoken run.generation run.nodes (sent ++ message.toList) := by
  have spoken := account.spoken
  cases move with
  | tell phase =>
    rw [phase] at spoken
    obtain rfl : sent = [] := spoken
    exact InRound.begin
  | report phase =>
    rw [phase] at spoken
    exact InRound.report spoken (run.isReport_report _ _)
  | finish phase =>
    rw [phase] at spoken
    obtain ⟨rest, inRound⟩ := spoken
    exact inRound.protocol_stopped
  | wake phase =>
    rw [phase] at spoken
    rw [Option.toList_none, List.append_nil]
    exact InRound.again spoken
  | obey phase | notice phase =>
    rw [phase] at spoken
    rw [Option.toList_none, List.append_nil]
    exact ⟨_, spoken⟩
  | turn phase | refuse phase | claim phase | receive phase | expire phase =>
    rw [phase] at spoken
    rw [Option.toList_none, List.append_nil]
    exact spoken

/-- A run that somebody listens to and that stops after an action was told to. -/
theorem cancelled_of_move {system base : System} {event : Event} {message : Option Progress}
    {next : Phase} (account : run.Account sent taken)
    (move : Move system run event base message next) (heard : run.heard = true)
    (last : next.IsLast) : run.cancelled = true :=
  (move.cancelled_of_isLast last).elim id (account.obedient heard)

/-- An action of the run adds the message that it sends. -/
theorem move {system base : System} {event : Event} {message : Option Progress} {next : Phase}
    (account : run.Account sent taken) (move : Move system run event base message next) :
    (run.after message next).1.Account (sent ++ (run.after message next).2.toList) taken := by
  have spoken := account.spoken_of_move move
  cases message with
  | none =>
    rw [Option.toList_none, List.append_nil] at spoken
    change { run with phase := next }.Account (sent ++ []) taken
    rw [List.append_nil]
    exact ⟨spoken, account.queued, account.isPrefix, account.cancelled_of_move move⟩
  | some message =>
    rcases run.heard.eq_false_or_eq_true with heard | unheard
    · rw [after_heard heard]
      refine ⟨spoken, fun _ => ?_, account.isPrefix.trans (List.prefix_append _ _),
        account.cancelled_of_move move⟩
      rw [Option.toList_some, account.queued heard, List.append_assoc]
    · rw [after_unheard unheard, Option.toList_none, List.append_nil]
      exact ⟨account.spoken.protocol, account.queued, account.isPrefix, by simp [unheard]⟩

end Account

end Run

/-- Whatever happens to a run, its account is kept. -/
theorem Effect.account {occurrence : Occurrence} {run after : Run} {sent taken : List Progress}
    (effect : Effect occurrence run after) (account : run.Account sent taken)
    (heard : occurrence.before.current = some run.generation → run.heard = true) :
    after.Account (sent ++ occurrence.sentBy run.generation)
      (taken ++ occurrence.takenFrom run.generation) := by
  cases effect with
  | keep others nothing =>
    rw [Occurrence.sentBy, if_neg others, nothing, List.append_nil, List.append_nil]
    exact account
  | cancel event nothing =>
    rw [Occurrence.sentBy_eq_nil (by rw [event]; rfl), Occurrence.takenFrom_eq_nil nothing,
      List.append_nil, List.append_nil]
    exact account.cancel
  | stop event nothing =>
    rw [Occurrence.sentBy_eq_nil (Event.run?_of_endsListening event),
      Occurrence.takenFrom_eq_nil nothing, List.append_nil, List.append_nil]
    exact account.stop
  | @take budget event queued current =>
    rw [Occurrence.sentBy_eq_nil (by rw [event]; rfl), Occurrence.takenFrom, if_pos current,
      queued, List.append_nil]
    exact account.take (heard current) budget
  | @move base message next move outcome =>
    rw [Occurrence.sentBy, if_pos move.run?_event, outcome,
      Occurrence.takenFrom_eq_nil (by rw [outcome]; rfl), List.append_nil]
    exact account.move move

end QueryTail.Polling
