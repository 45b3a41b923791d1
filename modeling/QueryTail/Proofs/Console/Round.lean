import QueryTail.Proofs.Console.Outcome
import QueryTail.Proofs.Polling.Timely

/-!
# The first round of a run

`Console.firstRound` gives the messages of a round at once. In the polling system they are sent one
by one, while the run and its workers take turns. As long as every fetch answers in time, both say
the same: whatever has been sent is the beginning of the round or begins with all of it
(`firstRound_of_timely`), and the whole round can be sent (`exists_timely_firstRound`).
-/

namespace QueryTail.Console

open Polling (Timely Told answerOf FetchResult System)

variable {compile : String → Option Matcher} {settings : Settings} {saved : Option Preferences}
  {arguments : Arguments} {console : Console} {system : System} {sent : List Progress}

/-- What the fetch from a node gives while the files stay as they are. -/
def answer (console : Console) (files : FileTree) (node : String) : Option FetchResult :=
  console.source.fetch files node console.settings.pageSize

/-- A console that has started is about to do its first run. -/
theorem polling_of_start (started : start compile settings saved arguments = .ok console) :
    console.polling = System.idle.startRun console.selected console.settings.fetchTimeout := by
  obtain ⟨-, filter, -, rfl⟩ := exists_of_start started
  rfl

/-- A console reports on a node what its first run does. -/
theorem report_fetch (first : console.polling.generation = 1) (files : FileTree) (node : String) :
    console.report node (console.fetch files node) = answerOf (console.answer files) node := by
  unfold report fetch answerOf answer LogSource.fetch
  rw [first]
  rcases console.source.fetchPage files node console.settings.pageSize with _ | fault | page <;> rfl

/-- The first round announces itself and then answers for each selected node, in order. -/
theorem firstRound_eq (started : start compile settings saved arguments = .ok console)
    (files : FileTree) :
    console.firstRound files =
      .started 1 console.selected.length ::
        console.selected.map (answerOf (console.answer files)) := by
  have first : console.polling.generation = 1 := by
    rw [polling_of_start started]
    rfl
  unfold firstRound
  rw [first]
  exact congrArg (_ :: ·) (List.map_congr_left fun node _ => report_fetch first files node)

/-- As long as every fetch answers in time, what the polling system sends is the first round as far
as it has got, or goes on after the whole first round. -/
theorem firstRound_of_timely (started : start compile settings saved arguments = .ok console)
    (files : FileTree) (timely : Timely (console.answer files) console.polling system sent) :
    sent <+: console.firstRound files ∨ console.firstRound files <+: sent := by
  rw [polling_of_start started] at timely
  rw [firstRound_eq started files]
  rcases Polling.sent_of_timely timely with rfl | ⟨rest, ⟨rounds, split⟩⟩
  · exact .inl List.nil_prefix
  · cases rounds with
    | zero =>
      refine .inl ((List.prefix_cons_inj _).mpr ?_)
      rw [← split, List.map_append]
      exact List.prefix_append _ _
    | succ rounds =>
      refine .inr ((List.prefix_cons_inj _).mpr ?_)
      rw [List.replicate_succ, List.flatten_cons, List.append_assoc]
      exact List.prefix_append _ _

/-- The polling system can send the first round, neither less nor more. -/
theorem exists_timely_firstRound (started : start compile settings saved arguments = .ok console)
    (files : FileTree) :
    ∃ last, Timely (console.answer files) console.polling last (console.firstRound files) := by
  rw [firstRound_eq started files, polling_of_start started]
  exact Polling.exists_timely_round _ _ _

end QueryTail.Console
