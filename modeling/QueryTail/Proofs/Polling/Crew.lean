import Mathlib.Data.List.Nodup
import QueryTail.Proofs.Polling.History

/-!
# Workers and the nodes that they are at

A worker is sent off when a run claims a node for it, and lets go of the node once. Which workers
there are, and which have let go, is read off the history; the system keeps account of it in the
claimed nodes and the busy workers. `Roster` says that this account is right.
-/

namespace QueryTail.Polling

/-! ### Workers in a history -/

namespace Occurrence

/-- The worker that a run sent off. -/
def hired? (occurrence : Occurrence) : Option Worker :=
  match occurrence.event with
  | .advance generation =>
    match (occurrence.outcome.system.run? generation).map Run.phase with
    | some (.fetching node ticket _) => some ⟨ticket, node⟩
    | _ => none
  | _ => none

/-- The ticket of the worker who let go of its node. -/
def released? (occurrence : Occurrence) : Option Nat :=
  match occurrence.event with
  | .release ticket => some ticket
  | _ => none

end Occurrence

/-- The workers who were sent off, in the order in which they were. -/
def hired (past : List Occurrence) : List Worker :=
  past.filterMap Occurrence.hired?

/-- How many times the worker with a ticket let go of its node. -/
def releases (ticket : Nat) (past : List Occurrence) : Nat :=
  (past.filterMap Occurrence.released?).count ticket

/-- The workers who were sent off and have not let go of their nodes. -/
def unreleased (past : List Occurrence) : List Worker :=
  (hired past).filter fun worker => releases worker.ticket past = 0

section

variable {past : List Occurrence} {occurrence : Occurrence}

/-- An occurrence that hires nobody leaves the hired workers as they are. -/
theorem hired_concat_of_none (nobody : occurrence.hired? = none) :
    hired (past ++ [occurrence]) = hired past := by
  rw [hired, filterMap_concat, nobody, Option.toList_none, List.append_nil, hired]

/-- An occurrence that hires a worker adds it to the hired ones. -/
theorem hired_concat_of_some {worker : Worker} (hires : occurrence.hired? = some worker) :
    hired (past ++ [occurrence]) = hired past ++ [worker] := by
  rw [hired, filterMap_concat, hires, Option.toList_some, hired]

/-- An occurrence that releases nobody leaves the count of releases as it is. -/
theorem releases_concat_of_none (ticket : Nat) (nobody : occurrence.released? = none) :
    releases ticket (past ++ [occurrence]) = releases ticket past := by
  rw [releases, filterMap_concat, nobody, Option.toList_none, List.append_nil, releases]

/-- An occurrence that releases a worker counts for the ticket of that worker only. -/
theorem releases_concat_of_some {ticket released : Nat}
    (lets : occurrence.released? = some released) :
    releases ticket (past ++ [occurrence]) =
      releases ticket past + if released = ticket then 1 else 0 := by
  rw [releases, filterMap_concat, lets, Option.toList_some, List.count_append, releases]
  congr 1
  by_cases same : released = ticket <;> simp [same]

/-- Nobody takes back that it let go. -/
theorem releases_le_concat (ticket : Nat) :
    releases ticket past ≤ releases ticket (past ++ [occurrence]) := by
  rw [releases, releases, List.filterMap_append, List.count_append]
  exact Nat.le_add_right _ _

end

/-! ### What an event means for the workers -/

/-- Two systems with the same workers at the same nodes, of which the second has no other answers
than the first. -/
structure SameCrew (before after : System) : Prop where
  claimed : after.claimed = before.claimed
  busy : after.busy = before.busy
  silent : after.silent = before.silent
  tickets : after.tickets = before.tickets
  answers : after.answers ⊆ before.answers

namespace SameCrew

/-- A system has the same crew as itself. -/
theorem refl (system : System) : SameCrew system system :=
  ⟨rfl, rfl, rfl, rfl, List.Subset.refl _⟩

/-- Cancelling the current run leaves the crew alone. -/
theorem cancelCurrent (system : System) : SameCrew system system.cancelCurrent := by
  unfold System.cancelCurrent
  split <;> exact ⟨rfl, rfl, rfl, rfl, List.Subset.refl _⟩

/-- Stopping the current run leaves the crew alone. -/
theorem stopCurrent (system : System) : SameCrew system system.stopCurrent := by
  unfold System.stopCurrent
  split <;> exact ⟨rfl, rfl, rfl, rfl, List.Subset.refl _⟩

/-- Starting a run leaves the crew alone. -/
theorem startRun (system : System) (nodes : List String) (timeout : Nat) :
    SameCrew system (system.startRun nodes timeout) := by
  obtain ⟨claimed, busy, silent, tickets, answers⟩ := SameCrew.stopCurrent system
  exact ⟨claimed, busy, silent, tickets, answers⟩

/-- Taking messages leaves the crew alone. -/
theorem takeMessages (system : System) (budget : Nat) :
    SameCrew system (system.takeMessages budget).1 := by
  unfold System.takeMessages
  split <;> exact ⟨rfl, rfl, rfl, rfl, List.Subset.refl _⟩

/-- Settling what a run did leaves the crew alone. -/
theorem settle (system : System) (result : Run × Option Progress) :
    SameCrew system (system.settle result).system :=
  ⟨rfl, rfl, rfl, rfl, List.Subset.refl _⟩

/-- Forgetting an answer and settling what a run did leaves the crew alone. -/
theorem settle_forget (system : System) (ticket : Nat) (result : Run × Option Progress) :
    SameCrew system ((system.forget ticket).settle result).system :=
  ⟨rfl, rfl, rfl, rfl, List.filter_sublist.subset⟩

end SameCrew

/-- What something that happened means for the workers. -/
inductive Shift (occurrence : Occurrence) : Prop where
  | stay (same : SameCrew occurrence.before occurrence.outcome.system)
      (hired : occurrence.hired? = none) (released : occurrence.released? = none) :
      Shift occurrence
  | hire {node : String} (free : node ∉ occurrence.before.claimed)
      (same : SameCrew (occurrence.before.dispatch node) occurrence.outcome.system)
      (hired : occurrence.hired? = some ⟨occurrence.before.tickets, node⟩)
      (released : occurrence.released? = none) : Shift occurrence
  | release {worker : Worker} (busy : worker ∈ occurrence.before.busy)
      (same : SameCrew (occurrence.before.letGo worker) occurrence.outcome.system)
      (hired : occurrence.hired? = none)
      (released : occurrence.released? = some worker.ticket) : Shift occurrence
  | answer {ticket : Nat} {result : Option FetchResult}
      (silent : ticket ∈ occurrence.before.silent)
      (same : SameCrew (occurrence.before.record ticket result) occurrence.outcome.system)
      (hired : occurrence.hired? = none) (released : occurrence.released? = none) :
      Shift occurrence

/-- An action of a run that does not bring it to a worker sends nobody off. -/
theorem Move.hired?_eq_none {system base : System} {run : Run} {event : Event}
    {message : Option Progress} {next : Phase} (move : Move system run event base message next)
    (found : system.run? run.generation = some run)
    (others : ∀ node ticket rest, next ≠ .fetching node ticket rest) :
    Occurrence.hired? ⟨system, event, base.settle (run.after message next)⟩ = none := by
  unfold Occurrence.hired?
  split
  case h_1 generation advances =>
    obtain rfl : event = .advance generation := advances
    obtain rfl : generation = run.generation := Option.some.inj move.run?_event
    rw [move.run?_self found, Option.map_some]
    rcases run.phase_after message next with goes | ends
    · rw [goes]
      split
      case h_1 node ticket rest phase =>
        exact absurd (Option.some.inj phase) (others node ticket rest)
      case h_2 => rfl
    · rw [ends]
  case h_2 => rfl

/-- An action of a run sends off a worker or leaves the workers as they are. -/
theorem Move.shift {system base : System} {run : Run} {event : Event}
    {message : Option Progress} {next : Phase} (move : Move system run event base message next)
    (found : system.run? run.generation = some run) :
    Shift ⟨system, event, base.settle (run.after message next)⟩ := by
  cases move with
  | claim phase free =>
    refine .hire free (.settle _ _) ?_ rfl
    have there := (Move.claim phase free).run?_self found
    simp only [Occurrence.hired?]
    rw [there]
    rfl
  | tell phase => exact .stay (.settle _ _) ((Move.tell phase).hired?_eq_none found nofun) rfl
  | obey phase cancelled =>
    exact .stay (.settle _ _) ((Move.obey phase cancelled).hired?_eq_none found nofun) rfl
  | wake phase => exact .stay (.settle _ _) ((Move.wake phase).hired?_eq_none found nofun) rfl
  | turn phase => exact .stay (.settle _ _) ((Move.turn phase).hired?_eq_none found nofun) rfl
  | refuse phase claimed =>
    exact .stay (.settle _ _) ((Move.refuse phase claimed).hired?_eq_none found nofun) rfl
  | report phase => exact .stay (.settle _ _) ((Move.report phase).hired?_eq_none found nofun) rfl
  | finish phase => exact .stay (.settle _ _) ((Move.finish phase).hired?_eq_none found nofun) rfl
  | receive => exact .stay (.settle_forget _ _ _) rfl rfl
  | expire => exact .stay (.settle_forget _ _ _) rfl rfl
  | notice => exact .stay (.settle_forget _ _ _) rfl rfl

/-- What happens means one of four things for the workers. -/
theorem Transition.shift {system : System} {event : Event} {outcome : Outcome}
    (transition : Transition system event outcome) : Shift ⟨system, event, outcome⟩ := by
  cases transition with
  | start nodes timeout => exact .stay (.startRun system nodes timeout) rfl rfl
  | cancel => exact .stay (.cancelCurrent system) rfl rfl
  | stop => exact .stay (.stopCurrent system) rfl rfl
  | take budget => exact .stay (.takeMessages system budget) rfl rfl
  | release busy => exact .release busy (.refl _) rfl rfl
  | answer result silent => exact .answer silent (.refl _) rfl rfl
  | move found move => exact move.shift found

/-! ### The account of the workers -/

/-- The claimed nodes are those of the busy workers, and no two busy workers are at one node. -/
structure System.Exclusive (system : System) : Prop where
  claimed_iff : ∀ node, node ∈ system.claimed ↔ ∃ worker ∈ system.busy, worker.node = node
  claimed_nodup : system.claimed.Nodup
  alone : (system.busy.map Worker.node).Nodup

namespace System.Exclusive

variable {system after : System}

/-- At the beginning there are no workers. -/
theorem idle : System.idle.Exclusive :=
  ⟨by simp [System.idle], .nil, .nil⟩

/-- Only workers and claims count. -/
theorem congr (exclusive : system.Exclusive) (same : SameCrew system after) : after.Exclusive := by
  refine ⟨?_, ?_, ?_⟩ <;> simp only [same.claimed, same.busy]
  exacts [exclusive.claimed_iff, exclusive.claimed_nodup, exclusive.alone]

/-- At a node there is one busy worker at most. -/
theorem eq_of_node_eq (exclusive : system.Exclusive) {first second : Worker}
    (isFirst : first ∈ system.busy) (isSecond : second ∈ system.busy)
    (same : first.node = second.node) : first = second :=
  List.inj_on_of_nodup_map exclusive.alone isFirst isSecond same

/-- A worker may be sent off to a node that nobody claims. -/
theorem dispatch (exclusive : system.Exclusive) {node : String} (free : node ∉ system.claimed) :
    (system.dispatch node).Exclusive := by
  refine ⟨fun other => ?_, List.nodup_cons.mpr ⟨free, exclusive.claimed_nodup⟩, ?_⟩
  · simp only [System.dispatch, List.mem_cons, exclusive.claimed_iff, exists_eq_or_imp, eq_comm]
  · rw [System.dispatch, List.map_cons, List.nodup_cons]
    refine ⟨fun isAt => free ?_, exclusive.alone⟩
    exact (exclusive.claimed_iff node).mpr (List.mem_map.mp isAt)

/-- A busy worker may let go of its node. -/
theorem letGo (exclusive : system.Exclusive) {worker : Worker} (busy : worker ∈ system.busy) :
    (system.letGo worker).Exclusive := by
  refine ⟨fun node => ?_, exclusive.claimed_nodup.erase _,
    exclusive.alone.sublist (List.erase_sublist.map _)⟩
  have distinct : system.busy.Nodup := exclusive.alone.of_map
  simp only [System.letGo, exclusive.claimed_nodup.mem_erase_iff, distinct.mem_erase_iff,
    exclusive.claimed_iff]
  constructor
  · rintro ⟨other, held, isBusy, rfl⟩
    exact ⟨held, ⟨fun same => other (congrArg Worker.node same), isBusy⟩, rfl⟩
  · rintro ⟨held, ⟨other, isBusy⟩, rfl⟩
    exact ⟨fun same => other (exclusive.eq_of_node_eq isBusy busy same), held, isBusy, rfl⟩

/-- A worker who has let go of its node may answer. -/
theorem record (exclusive : system.Exclusive) (ticket : Nat) (result : Option FetchResult) :
    (system.record ticket result).Exclusive :=
  ⟨exclusive.claimed_iff, exclusive.claimed_nodup, exclusive.alone⟩

/-- Whatever happens, no two busy workers are at one node. -/
theorem step {event : Event} {outcome : Outcome} (exclusive : system.Exclusive)
    (transition : Transition system event outcome) : outcome.system.Exclusive := by
  cases transition.shift with
  | stay same => exact exclusive.congr same
  | hire free same => exact (exclusive.dispatch free).congr same
  | release busy same => exact (exclusive.letGo busy).congr same
  | answer silent same => exact (exclusive.record _ _).congr same

end System.Exclusive

/-- The busy workers are those who were sent off and have not let go of their nodes, tickets were
given out one after the other, and whoever has let go did so once. -/
structure Roster (past : List Occurrence) (system : System) : Prop where
  tickets : (hired past).map Worker.ticket = List.range system.tickets
  busy_iff : ∀ worker,
    worker ∈ system.busy ↔ worker ∈ hired past ∧ releases worker.ticket past = 0
  once : ∀ ticket, releases ticket past ≤ 1
  issued : ∀ ticket, system.tickets ≤ ticket → releases ticket past = 0
  silent : ∀ ticket ∈ system.silent, releases ticket past = 1
  answered : ∀ answer ∈ system.answers, releases answer.1 past = 1

namespace Roster

variable {past : List Occurrence} {system : System} {event : Event} {outcome : Outcome}

/-- At the beginning nobody was sent off. -/
theorem idle : Roster [] .idle :=
  ⟨rfl, fun _ => ⟨nofun, nofun⟩, fun _ => Nat.zero_le _, fun _ _ => rfl, nofun, nofun⟩

/-- Tickets tell workers apart. -/
theorem eq_of_ticket_eq (roster : Roster past system) {first second : Worker}
    (isFirst : first ∈ hired past) (isSecond : second ∈ hired past)
    (same : first.ticket = second.ticket) : first = second := by
  have distinct : ((hired past).map Worker.ticket).Nodup := by
    rw [roster.tickets]
    exact List.nodup_range
  exact List.inj_on_of_nodup_map distinct isFirst isSecond same

/-- The tickets of all workers were given out. -/
theorem ticket_lt (roster : Roster past system) {worker : Worker} (isHired : worker ∈ hired past) :
    worker.ticket < system.tickets := by
  rw [← List.mem_range, ← roster.tickets]
  exact List.mem_map_of_mem isHired

/-- The workers who have not let go of their nodes are busy. -/
theorem mem_unreleased (roster : Roster past system) (worker : Worker) :
    worker ∈ unreleased past ↔ worker ∈ system.busy := by
  rw [unreleased, List.mem_filter, decide_eq_true_iff, roster.busy_iff]

/-- Whoever has let go of its node once has done so for good. -/
theorem releases_eq_one {occurrence : Occurrence} {ticket : Nat}
    (let_go : releases ticket past = 1)
    (once : releases ticket (past ++ [occurrence]) ≤ 1) :
    releases ticket (past ++ [occurrence]) = 1 :=
  Nat.le_antisymm once (let_go ▸ releases_le_concat ticket)

/-- Where nobody is sent off and nobody lets go, the roster stays right. -/
theorem stay {occurrence : Occurrence} (roster : Roster past system)
    (hired : occurrence.hired? = none) (released : occurrence.released? = none) :
    Roster (past ++ [occurrence]) system := by
  refine ⟨?_, ?_, ?_, ?_, ?_, ?_⟩ <;>
    simp only [hired_concat_of_none hired, releases_concat_of_none _ released]
  exacts [roster.tickets, roster.busy_iff, roster.once, roster.issued, roster.silent,
    roster.answered]

/-- Only workers and answers count. -/
theorem congr {after : System} (roster : Roster past system) (same : SameCrew system after) :
    Roster past after := by
  refine ⟨?_, ?_, roster.once, ?_, ?_,
    fun answer held => roster.answered answer (same.answers held)⟩ <;>
    simp only [same.tickets, same.busy, same.silent]
  exacts [roster.tickets, roster.busy_iff, roster.issued, roster.silent]

/-- A worker who is sent off gets the next ticket. -/
theorem dispatch {occurrence : Occurrence} {node : String} (roster : Roster past system)
    (hires : occurrence.hired? = some ⟨system.tickets, node⟩)
    (released : occurrence.released? = none) :
    Roster (past ++ [occurrence]) (system.dispatch node) := by
  refine ⟨?_, fun worker => ?_, ?_, ?_, ?_, ?_⟩ <;>
    simp only [hired_concat_of_some hires, releases_concat_of_none _ released]
  · rw [List.map_append, roster.tickets, System.dispatch, List.range_succ, List.map_singleton]
  · rw [System.dispatch, List.mem_cons, List.mem_append, List.mem_singleton, roster.busy_iff]
    constructor
    · rintro (rfl | ⟨isHired, busy⟩)
      · exact ⟨.inr rfl, roster.issued _ (Nat.le_refl _)⟩
      · exact ⟨.inl isHired, busy⟩
    · rintro ⟨isHired | isNew, busy⟩
      · exact .inr ⟨isHired, busy⟩
      · exact .inl isNew
  · exact roster.once
  · exact fun ticket free => roster.issued ticket (Nat.le_of_succ_le free)
  · exact roster.silent
  · exact roster.answered

/-- A worker who lets go of its node had not done so before. -/
theorem letGo {occurrence : Occurrence} {worker : Worker} (roster : Roster past system)
    (distinct : system.busy.Nodup) (busy : worker ∈ system.busy)
    (hired : occurrence.hired? = none) (released : occurrence.released? = some worker.ticket) :
    Roster (past ++ [occurrence]) (system.letGo worker) := by
  obtain ⟨isHired, held⟩ := (roster.busy_iff worker).mp busy
  have count : ∀ ticket, releases ticket (past ++ [occurrence]) =
      releases ticket past + if worker.ticket = ticket then 1 else 0 :=
    fun ticket => releases_concat_of_some released
  have once : ∀ ticket, releases ticket (past ++ [occurrence]) ≤ 1 := by
    intro ticket
    rw [count]
    split
    case isTrue same =>
      have unreleased : releases ticket past = 0 := same ▸ held
      omega
    case isFalse => exact roster.once ticket
  refine ⟨?_, fun other => ?_, once, fun ticket free => ?_, fun ticket silent => ?_,
    fun answer isThere => releases_eq_one (roster.answered answer isThere) (once _)⟩
  · rw [hired_concat_of_none hired]
    exact roster.tickets
  · rw [hired_concat_of_none hired, System.letGo, distinct.mem_erase_iff, roster.busy_iff, count]
    constructor
    · rintro ⟨isOther, isThere, unreleased⟩
      have tickets : worker.ticket ≠ other.ticket := fun same =>
        isOther (roster.eq_of_ticket_eq isThere isHired same.symm)
      exact ⟨isThere, by rw [unreleased, if_neg tickets]⟩
    · rintro ⟨isThere, unreleased⟩
      refine ⟨?_, isThere, Nat.eq_zero_of_add_eq_zero_right unreleased⟩
      rintro rfl
      simp at unreleased
  · have old := roster.ticket_lt isHired
    have new : worker.ticket ≠ ticket := by
      have free : system.tickets ≤ ticket := free
      omega
    rw [count, roster.issued ticket free, if_neg new]
  · rcases List.mem_cons.mp silent with rfl | silent
    · rw [count, held, if_pos rfl]
    · exact releases_eq_one (roster.silent ticket silent) (once _)

/-- Whoever answers has let go of its node. -/
theorem record (roster : Roster past system) {ticket : Nat} (silent : ticket ∈ system.silent)
    (result : Option FetchResult) : Roster past (system.record ticket result) := by
  refine ⟨roster.tickets, roster.busy_iff, roster.once, roster.issued,
    fun other held => roster.silent other (List.mem_of_mem_erase held), fun answer held => ?_⟩
  rcases List.mem_append.mp held with isNew | isOld
  · split at isNew
    · obtain rfl := List.mem_singleton.mp isNew
      exact roster.silent ticket silent
    · cases isNew
  · exact roster.answered answer isOld

/-- Whatever happens, the roster stays right. -/
theorem step (roster : Roster past system) (exclusive : system.Exclusive)
    (transition : Transition system event outcome) :
    Roster (past ++ [⟨system, event, outcome⟩]) outcome.system := by
  cases transition.shift with
  | stay same hired released => exact (roster.stay hired released).congr same
  | hire free same hires released => exact (roster.dispatch hires released).congr same
  | release busy same hired released =>
    exact (roster.letGo exclusive.alone.of_map busy hired released).congr same
  | answer silent same hired released =>
    exact ((roster.stay hired released).record silent _).congr same

end Roster

namespace History

variable {past : List Occurrence} {system : System}

/-- After every history, no two busy workers are at one node. -/
theorem exclusive (history : History past system) : system.Exclusive := by
  induction history with
  | idle => exact .idle
  | next earlier happens hypothesis => exact hypothesis.step (System.transition_of_step happens)

/-- The roster of every history is right. -/
theorem roster (history : History past system) : Roster past system := by
  induction history with
  | idle => exact .idle
  | next earlier happens hypothesis =>
    exact hypothesis.step earlier.exclusive (System.transition_of_step happens)

end History

end QueryTail.Polling
