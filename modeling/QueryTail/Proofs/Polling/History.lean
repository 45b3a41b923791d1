import QueryTail.Proofs.Polling.Effect

/-!
# Histories

A history is what happened to the runs and workers since the beginning: which events, in which
systems, with what outcomes. Every schedule that can happen has one, so a fact about all histories
is a fact about all interleavings.
-/

namespace QueryTail.Polling

/-- What happened since the beginning, oldest first, and the system that it led to. -/
inductive History : List Occurrence → System → Prop where
  | idle : History [] .idle
  | next {past : List Occurrence} {system : System} {event : Event} {outcome : Outcome}
      (earlier : History past system) (happens : system.step event = some outcome) :
      History (past ++ [⟨system, event, outcome⟩]) outcome.system

/-- What is found in a history that has become longer was found before or is found at its end. -/
theorem filterMap_concat {Found : Type} (found? : Occurrence → Option Found)
    (past : List Occurrence) (occurrence : Occurrence) :
    (past ++ [occurrence]).filterMap found? =
      past.filterMap found? ++ (found? occurrence).toList := by
  cases found : found? occurrence <;> simp [found]

namespace System

/-- A schedule can be longer by an event that can happen in the system that it leads to. -/
theorem schedule_concat {system middle : System} {events : List Event} {event : Event}
    {outcome : Outcome} {sent taken : List Progress}
    (happens : system.schedule events = some (middle, sent, taken))
    (last : middle.step event = some outcome) :
    system.schedule (events ++ [event]) =
      some (outcome.system, sent ++ outcome.sent.toList, taken ++ outcome.taken) := by
  induction events generalizing system sent taken with
  | nil =>
    cases happens
    simp [schedule, last]
  | cons first events hypothesis =>
    obtain ⟨initial, begins, happens⟩ := Option.bind_eq_some_iff.mp happens
    obtain ⟨⟨reached, sentLater, takenLater⟩, others, happens⟩ :=
      Option.bind_eq_some_iff.mp happens
    cases happens
    simp [schedule, begins, hypothesis others]

end System

namespace History

variable {past : List Occurrence} {system : System}

/-- An occurrence of a history that has just become longer is the last one or happened before. -/
theorem occurrence_of_concat {earlier later : List Occurrence} {last occurrence : Occurrence}
    (split : past ++ [last] = earlier ++ occurrence :: later) :
    (past = earlier ∧ last = occurrence) ∨ ∃ init, past = earlier ++ occurrence :: init := by
  obtain rfl | ⟨init, final, rfl⟩ := later.eq_nil_or_concat
  · obtain ⟨same, occurs⟩ := List.append_inj' split rfl
    exact .inl ⟨same, List.singleton_inj.mp occurs⟩
  · rw [List.concat_eq_append, ← List.cons_append, ← List.append_assoc] at split
    exact .inr ⟨init, (List.append_inj' split rfl).1⟩

/-- Whatever happened, happened in a system with a history of its own. -/
theorem at_occurrence {earlier later : List Occurrence} {occurrence : Occurrence}
    (history : History past system) (split : past = earlier ++ occurrence :: later) :
    History earlier occurrence.before ∧
      occurrence.before.step occurrence.event = some occurrence.outcome := by
  induction history generalizing later with
  | idle => simp at split
  | @next past system event outcome history happens hypothesis =>
    obtain ⟨rfl, rfl⟩ | ⟨init, inPast⟩ := occurrence_of_concat split
    · exact ⟨history, happens⟩
    · exact hypothesis inPast

/-- Whatever happened was something that events do, after a history of its own. -/
theorem of_mem {occurrence : Occurrence} (history : History past system)
    (isMember : occurrence ∈ past) :
    ∃ earlier, History earlier occurrence.before ∧
      Transition occurrence.before occurrence.event occurrence.outcome := by
  obtain ⟨earlier, later, split⟩ := List.append_of_mem isMember
  obtain ⟨before, happens⟩ := history.at_occurrence split
  exact ⟨earlier, before, System.transition_of_step happens⟩

/-- What every event keeps, and what held after something happened, holds from then on. -/
theorem holds_since {earlier later : List Occurrence} {occurrence : Occurrence}
    (history : History past system) (kept : System → Prop)
    (split : past = earlier ++ occurrence :: later)
    (keeps : ∀ system event outcome, kept system → Transition system event outcome →
      kept outcome.system)
    (holds : kept occurrence.outcome.system) : kept system := by
  induction history generalizing later with
  | idle => simp at split
  | @next past system event outcome history happens hypothesis =>
    obtain ⟨rfl, rfl⟩ | ⟨init, inPast⟩ := occurrence_of_concat split
    · exact holds
    · exact keeps system event outcome (hypothesis inPast) (System.transition_of_step happens)

/-- A schedule that can happen after a history makes it longer by its events. -/
theorem extend {events : List Event} {last : System} {sent taken : List Progress}
    (history : History past system)
    (happens : system.schedule events = some (last, sent, taken)) :
    ∃ new : List Occurrence, History (past ++ new) last ∧ new.map Occurrence.event = events ∧
      new.flatMap (fun occurrence => occurrence.outcome.sent.toList) = sent ∧
      new.flatMap (fun occurrence => occurrence.outcome.taken) = taken := by
  induction events generalizing past system sent taken with
  | nil =>
    cases happens
    exact ⟨[], by simpa using history, rfl, rfl, rfl⟩
  | cons event events hypothesis =>
    obtain ⟨outcome, first, happens⟩ := Option.bind_eq_some_iff.mp happens
    obtain ⟨⟨middle, sentLater, takenLater⟩, others, happens⟩ := Option.bind_eq_some_iff.mp happens
    cases happens
    obtain ⟨new, longer, rfl, rfl, rfl⟩ := hypothesis (history.next first) others
    refine ⟨⟨system, event, outcome⟩ :: new, ?_, rfl, rfl, rfl⟩
    simpa using longer

/-- The events of a history are a schedule that leads to the same system and sends and takes the
same messages. -/
theorem schedule_events (history : History past system) :
    System.idle.schedule (past.map Occurrence.event) =
      some (system, past.flatMap fun occurrence => occurrence.outcome.sent.toList,
        past.flatMap fun occurrence => occurrence.outcome.taken) := by
  induction history with
  | idle => rfl
  | next history happens hypothesis =>
    simp only [List.map_append, List.flatMap_append, List.map_cons, List.map_nil,
      List.flatMap_singleton]
    exact System.schedule_concat hypothesis happens

end History

namespace System

/-- The systems that schedules lead to are those with histories. -/
theorem reachable_iff_history {system : System} :
    system.Reachable ↔ ∃ past, History past system := by
  constructor
  · rintro ⟨events, sent, taken, happens⟩
    obtain ⟨new, history, -⟩ := History.idle.extend happens
    exact ⟨[] ++ new, history⟩
  · rintro ⟨past, history⟩
    exact ⟨_, _, _, history.schedule_events⟩

end System

end QueryTail.Polling
