import QueryTail.Proofs.Console.Outcome
import QueryTail.Proofs.View.Printed
import QueryTail.Proofs.View.Session

/-!
# What a run prints

The only thing that a run prints are the rows that arrive. A message adds to what was printed a line
for each row that it brings into the window and that the filter accepts, oldest first
(`printed_hear`). So what a run has printed in the end are the rows that its messages brought, one
message after the other (`printed_proceed`).
-/

namespace QueryTail

/-- The text of rows, with a line for each. -/
def Row.text (rows : List Row) : List Char :=
  rows.flatMap fun row => row.line.toList ++ ['\n']

/-- The lines of rows, each with its line feed, are the text of the rows. -/
theorem Text.ofLines_rows (rows : List Row) : ofLines (rows.map Row.line) = Row.text rows :=
  List.flatMap_map ..

namespace Surroundings

/-! ### Printing nothing -/

/-- An action that prints nothing. -/
def Silent {α : Type} (action : StateM Surroundings α) : Prop :=
  ∀ around, (action around).2.printed = around.printed

namespace Silent

variable {α β : Type}

/-- Returning a value prints nothing. -/
theorem pure (value : α) : Silent (Pure.pure value) := fun _ => rfl

/-- One silent action after another is silent. -/
theorem bind {action : StateM Surroundings α} {next : α → StateM Surroundings β}
    (first : Silent action) (later : ∀ value, Silent (next value)) : Silent (action >>= next) :=
  fun around => (later _ _).trans (first around)

/-- What happens to the files prints nothing. -/
theorem onFiles (action : StateM FileTree α) : Silent (Surroundings.onFiles action) :=
  fun _ => rfl

/-- A note in the log file prints nothing. -/
theorem note (events : List LogEvent) : Silent (actions.note events) := fun _ => rfl

end Silent

end Surroundings

namespace Console

open Surroundings (Silent)

variable {console : Console}

/-! ### One message -/

/-- What a console receives is what its view handles, with the new lines of the view if a page was
merged. -/
theorem receive_eq (console : Console) (now : Nat) (message : Progress) :
    let handled := console.view.handle message now
    console.receive now message =
      ({ console with view := handled.1 },
        ⟨handled.2.elim [] handled.1.newLines, handled.2⟩) := by
  unfold receive
  split <;> next handled => rw [handled]; rfl

/-- A console that hears a message logs the merge and prints the lines of the message. -/
theorem hear_actions (console : Console) (now : Nat) (message : Progress)
    (around : Surroundings) :
    console.hear Surroundings.actions now message around =
      ((console.receive now message).1,
        (around.note ((console.receive now message).2.merge.toList.flatMap mergeEvents)).print
          (Text.ofLines (console.receive now message).2.lines)) := rfl

/-- The lines of a message are those of the rows that it brings, whatever the message is. -/
theorem lines_receive (holds : console.view.WellFormed) (now : Nat) (message : Progress) :
    (console.receive now message).2.lines =
      (console.view.arrivals (console.receive now message).1.view).reverse.map Row.line := by
  rw [receive_eq]
  dsimp only
  -- Unless a page is merged, there are neither lines nor other rows than before.
  have silent {view : View} (handled : console.view.handle message now = (view, none))
      (same : view.rows = console.view.rows) :
      (console.view.handle message now).2.elim [] (console.view.handle message now).1.newLines =
        (console.view.arrivals (console.view.handle message now).1).reverse.map Row.line := by
    rw [handled, View.arrivals_of_rows same]
    rfl
  by_cases accepts : console.view.generation = some message.generation
  · cases message with
    | page generation node page =>
      obtain ⟨result, merged, -, lines, -⟩ :=
        View.newLines_handle_page holds (show _ = some generation from accepts) node page now
      rw [merged, Option.elim_some, lines, List.map_reverse]
    | started | fetchFailed | stopped => exact silent (if_pos accepts) rfl
  · exact silent (View.handle_of_stale accepts) rfl

/-- What a message adds to what was printed. -/
theorem printed_hear_eq (holds : console.view.WellFormed) (now : Nat) (message : Progress)
    (around : Surroundings) :
    (console.hear Surroundings.actions now message around).2.printed =
      around.printed ++
        Row.text (console.view.arrivals (console.receive now message).1.view).reverse := by
  rw [hear_actions, lines_receive holds, Text.ofLines_rows]
  rfl

/-- Whatever operations have led to the view of a console, a page of its generation is merged, and
what is added to what was printed is a line for each row of the window whose key was not in the
window before and which the filter accepts, oldest first. If nothing was new, nothing is printed. -/
theorem printed_hear (console : Console) (capacity : Nat) (policy : CapacityPolicy) (lifetime : Nat)
    (operations : List View.Operation)
    (reached : console.view = (View.new capacity policy lifetime).run operations)
    (generation : Nat) (accepts : console.view.generation = some generation) (node : String)
    (page : List Entry) (now : Nat) (around : Surroundings) :
    let message := Progress.page generation node page
    let after := (console.hear Surroundings.actions now message around).1
    let left := (console.hear Surroundings.actions now message around).2
    let arrived := after.view.rows.filter fun row =>
      row.key ∉ console.view.rows.map Row.key ∧ console.view.filter.Accepts row
    ∃ result, console.view.handle message now = (after.view, some result) ∧
      left.printed =
        around.printed ++ arrived.reverse.flatMap (fun row => row.line.toList ++ ['\n']) ∧
      (result.isNoop = true → left.printed = around.printed) := by
  intro message after left arrived
  have holds : console.view.WellFormed := by
    rw [reached]
    exact (View.wellFormed_new capacity policy lifetime).run operations
  obtain ⟨result, merged, filter, lines, nothing⟩ :=
    View.newLines_handle_page holds accepts node page now
  have received := console.receive_eq now message
  have view : (console.view.handle message now).1 = after.view :=
    (congrArg (·.1.view) received).symm
  rw [view] at filter nothing
  have arrives : console.view.arrivals after.view = arrived := by
    unfold View.arrivals
    rw [filter]
    rfl
  have printed : left.printed = around.printed ++ Row.text arrived.reverse := by
    rw [← arrives]
    exact printed_hear_eq holds now message around
  refine ⟨result, Prod.ext view merged, printed, fun noop => ?_⟩
  have silent : (console.receive now message).2.lines = [] := by
    rw [received, merged]
    exact (congrArg (·.newLines result) view).trans (nothing noop)
  rw [lines_receive holds, List.map_eq_nil_iff] at silent
  rw [printed, ← arrives]
  exact (congrArg (around.printed ++ Row.text ·) silent).trans (List.append_nil _)

/-- Of four entries of a page one is held, one is pushed out at once, and one comes from a source
that is not shown. -/
theorem printed_hear_crowded :
    let entry (source time : String) : Entry := ⟨source, 1, some time, none, []⟩
    let held := entry "A" "2024-05-01T10:00:02Z"
    let dropped := entry "A" "2024-05-01T10:00:01Z"
    let hidden := entry "B" "2024-05-01T10:00:05Z"
    let fresh := entry "A" "2024-05-01T10:00:04Z"
    let operations : List View.Operation :=
      [.enter 7, .handle (.page 7 "A" [held]) 0, .setFilter (.singleSource "A")]
    let console : Console :=
      { settings := .standard
        source := .ofNodes []
        selected := []
        polling := .idle
        view := (View.new 3 .retain 10).run operations }
    let around : Surroundings := ⟨.empty [], ⟨⟨[]⟩, none⟩, "> ".toList⟩
    let message := Progress.page 7 "A" [hidden, dropped, held, fresh]
    let after := (console.hear Surroundings.actions 1 message around).1
    let left := (console.hear Surroundings.actions 1 message around).2
    console.view.generation = some 7 ∧ console.view.rows = [.ofEntry held] ∧
      after.view.rows = [hidden, fresh, held].map .ofEntry ∧
      left.printed = "> 2024-05-01 10:00:04.000  A            #1        -\n".toList := by
  intro entry held dropped hidden fresh operations console around message after left
  let window := ((Window.empty 3).merge [held]).1
  have empty := Window.wellFormed_empty 3
  have stays : View.StaysInSession operations.tail := by decide
  have follows : console.view.Follows 7 .retain window :=
    (View.Follows.enter (View.new 3 .retain 10) 7).run stays
  have before : window.rows = [.ofEntry held] := by
    rw [empty.rows_merge, Window.candidates, Window.newestFirst_eq_insertionSort]
    simp [Window.fresh, Window.unseen, Window.empty]
  have rowsBefore : console.view.rows = [.ofEntry held] :=
    (View.rows_of_window follows.tails).trans before
  obtain ⟨result, handled, printed, -⟩ := printed_hear console 3 .retain 10 operations rfl 7
    follows.listens "A" [hidden, dropped, held, fresh] 1 around
  have rowsAfter : after.view.rows = [hidden, fresh, held].map .ofEntry := by
    have tails := (follows.page "A" [hidden, dropped, held, fresh] 1).2.tails
    rw [handled] at tails
    have unseen : window.fresh [hidden, dropped, held, fresh] =
        [hidden, dropped, fresh].map .ofEntry := by
      simp [Window.fresh, Window.unseen, before, Std.HashSet.contains_insert, hidden, dropped, held,
        fresh, entry, Entry.key, Row.key]
    rw [View.rows_of_window tails, (empty.merge _).rows_merge, Window.candidates, unseen, before,
      Window.newestFirst_eq_insertionSort, Window.capacity_merge]
    rfl
  refine ⟨follows.listens, rowsBefore, rowsAfter, ?_⟩
  rw [show left.printed = _ from printed, show View.rows _ = _ from rowsAfter, rowsBefore]
  decide +kernel

/-! ### Many messages -/

/-- The rows that messages bring, one message after the other; those of a message oldest first. -/
def arrived (console : Console) (now : Nat) : List Progress → List Row
  | [] => []
  | message :: rest =>
    let after := (console.receive now message).1
    (console.view.arrivals after.view).reverse ++ after.arrived now rest

/-- What messages add to what was printed. -/
theorem printed_hearAll (holds : console.view.WellFormed) (now : Nat) (messages : List Progress)
    (around : Surroundings) :
    (console.hearAll Surroundings.actions now messages around).2.printed =
      around.printed ++ Row.text (console.arrived now messages) := by
  induction messages generalizing console around with
  | nil => exact (List.append_nil _).symm
  | cons message rest ih =>
    have holdsNext : (console.receive now message).1.view.WellFormed := by
      rw [receive_eq]
      exact holds.handle message now
    have next := ih holdsNext (console.hear Surroundings.actions now message around).2
    rw [printed_hear_eq holds, List.append_assoc] at next
    rw [arrived, Row.text, List.flatMap_append]
    exact next

/-! ### A run -/

/-- The end of a run prints nothing. -/
theorem silent_finish (console : Console) (arguments : Arguments) (path : String) :
    Silent (console.finish Surroundings.actions arguments path) := by
  have exports : Silent (console.exportWindow Surroundings.actions arguments) := by
    unfold exportWindow
    cases arguments.exportPath with
    | none => exact .pure _
    | some path =>
      have writes : Silent (Export.toFile Surroundings.actions.toFileActions console.view.rows
          path) := by
        refine .bind (.onFiles _) fun written => ?_
        cases written <;> exact .pure _
      refine .bind writes fun outcome => ?_
      cases outcome with
      | error fault => exact .pure _
      | ok count => exact .bind (.note _) fun _ => .pure _
  have saves : Silent (console.savePreferences Surroundings.actions path) := by
    unfold savePreferences
    rw [Surroundings.saveTo_actions]
    exact .bind (.onFiles _) fun saving => .bind (.note _) fun _ => .pure saving
  refine .bind (.note _) fun _ => .bind exports fun outcome => ?_
  cases outcome with
  | error fault => exact .pure _
  | ok => exact .bind saves fun _ => .pure _

/-- Polling prints the text of the rows that arrive in its first round, in the order of arrival. -/
theorem printed_poll (holds : console.view.WellFormed) (around : Surroundings) :
    let files := (around.note console.startEvents).files
    (console.poll around).2.printed =
      around.printed ++ Row.text (console.arrived 0 (console.firstRound files)) :=
  printed_hearAll holds 0 _ _

/-- What the run of a console prints are the rows that its first round brings. -/
theorem printed_proceed (holds : console.view.WellFormed) (arguments : Arguments) (path : String)
    (around : Surroundings) :
    let files := (around.note console.startEvents).files
    (console.proceed arguments path around).2.printed =
      around.printed ++ Row.text (console.arrived 0 (console.firstRound files)) := by
  intro files
  have ends := (console.poll around).1.silent_finish arguments path (console.poll around).2
  exact ends.trans (printed_poll holds around)

/-- A console that has started begins with an empty window. -/
theorem wellFormed_start {compile : String → Option Matcher} {settings : Settings}
    {saved : Option Preferences} {arguments : Arguments}
    (started : start compile settings saved arguments = .ok console) : console.view.WellFormed := by
  obtain ⟨-, filter, -, rfl⟩ := exists_of_start started
  have new : (View.ofSettings settings).WellFormed := View.wellFormed_new ..
  exact (new.congr _ filter _).enter _

/-- What a run prints are the rows that its first round brings; if it does not begin, nothing. -/
theorem printed_run (compile : String → Option Matcher) (settings : Settings)
    (saved : Option Preferences) (arguments : Arguments) (path : String) (around : Surroundings) :
    let left := (run compile settings saved arguments path around).2.1
    match begin compile settings saved arguments with
    | .error _ => left.printed = around.printed
    | .ok console =>
      let adjusted := (settings.adjust saved arguments).1
      let around := around.note (choiceEvents compile adjusted saved arguments)
      let files := (around.note console.startEvents).files
      left.printed = around.printed ++ Row.text (console.arrived 0 (console.firstRound files)) := by
  intro left
  cases begun : begin compile settings saved arguments with
  | error fault => exact (run_of_begin_eq_error begun path around).2
  | ok console =>
    obtain ⟨adjusted, -, started⟩ := begin_eq_ok_iff.mp begun
    have ran : left = _ := congrArg (·.2.1) (run_of_begin begun path around)
    rw [ran, (begun_of_begin begun).settings_eq]
    exact printed_proceed (wellFormed_start started) arguments path _

end Console

end QueryTail
