import QueryTail.Proofs.Console.Saving
import QueryTail.Proofs.View.Step

/-!
# What a run ends with

The preferences that a run saves at its end are settled when it begins: no message changes them, so
that they do not depend on how long the run lasts or on what its nodes report (`preferences_watch`).
What a run saves is therefore a matter of the console that it begins with (`begin_of_run`), and
`Begun` says what that console has from the settings file, the preferences saved before and the
command line.
-/

namespace QueryTail

namespace View

variable {view : View}

/-- What a view keeps of the choices of the user. -/
def choices (view : View) : Nat × CapacityPolicy × Filter :=
  (view.capacity, view.policy, view.filter)

/-- A page that arrives leaves what the user chose alone. -/
theorem choices_acceptPage (view : View) (node : String) (page : List Entry) (now : Nat) :
    (view.acceptPage node page now).1.choices = view.choices := by
  cases tails : view.window with
  | none => rw [acceptPage_of_none tails]
  | some window =>
    cases new : (window.merge page).2.isNoop with
    | true => rw [acceptPage_of_isNoop tails new]
    | false =>
      rw [acceptPage_of_not_isNoop tails new]
      exact (congrArg choices (view.unmarked_takePage window page now) :)

/-- No message changes the choices. -/
theorem choices_handle (view : View) (message : Progress) (now : Nat) :
    (view.handle message now).1.choices = view.choices := by
  unfold handle
  split
  · cases message with
    | page generation node page => exact view.choices_acceptPage node page now
    | started | fetchFailed | stopped => rfl
  · rfl

end View

namespace Console

variable {compile : String → Option Matcher} {settings : Settings} {saved : Option Preferences}
  {arguments : Arguments} {console : Console}

/-! ### Messages -/

/-- The preferences of a console show no more of its view than the choices. -/
theorem preferences_of_choices {view : View} (same : view.choices = console.view.choices) :
    { console with view }.preferences = console.preferences := by
  simp only [View.choices, Prod.mk.injEq] at same
  obtain ⟨capacity, policy, filter⟩ := same
  simp only [preferences, capacity, policy, filter]

/-- A message leaves the preferences of the console alone, whatever it reports. -/
theorem preferences_receive (console : Console) (now : Nat) (message : Progress) :
    (console.receive now message).1.preferences = console.preferences := by
  have same := preferences_of_choices (console.view.choices_handle message now)
  unfold receive
  split <;> next handled => rwa [handled] at same

/-- The console after messages, oldest first. -/
def heard (console : Console) (now : Nat) (messages : List Progress) : Console :=
  messages.foldl (fun console message => (console.receive now message).1) console

/-- What becomes of a console that hears messages does not depend on its surroundings. -/
theorem hearAll_fst (console : Console) (now : Nat) (messages : List Progress)
    (around : Surroundings) :
    (console.hearAll Surroundings.actions now messages around).1 = console.heard now messages := by
  induction messages generalizing console around with
  | nil => rfl
  | cons message rest ih => exact ih ..

/-- A list of messages leaves the preferences of the console alone. -/
theorem preferences_heard (console : Console) (now : Nat) (messages : List Progress) :
    (console.heard now messages).preferences = console.preferences := by
  induction messages generalizing console with
  | nil => rfl
  | cons message rest ih => exact (ih _).trans (console.preferences_receive now message)

/-- The console after looking for messages a number of times. What is found at a look is handed to
the view, and marks that have run out by then are removed. -/
def watch (console : Console) : List (Nat × List Progress) → Console
  | [] => console
  | (now, messages) :: later =>
    let console := console.heard now messages
    watch { console with view := (console.view.expireMarks now).1 } later

/-- However long a console watches, and whatever it is told, its preferences stay. -/
theorem preferences_watch (console : Console) (looks : List (Nat × List Progress)) :
    (console.watch looks).preferences = console.preferences := by
  induction looks generalizing console with
  | nil => rfl
  | cons look later ih =>
    obtain ⟨now, messages⟩ := look
    exact (ih _).trans (console.preferences_heard now messages)

/-! ### From the beginning of a run to its end -/

/-- The console that a run begins with. -/
def begin (compile : String → Option Matcher) (settings : Settings) (saved : Option Preferences)
    (arguments : Arguments) : Except Fault Console :=
  match settings.adjust saved arguments with
  | (_, .error fault) => .error (.settings fault)
  | (settings, .ok ()) => start compile settings saved arguments

/-- A console starts with the nodes of its settings and a filter that can be chosen, and all that it
has is made of these. -/
theorem exists_of_start (started : start compile settings saved arguments = .ok console) :
    settings.nodes ≠ [] ∧ ∃ filter, chooseFilter compile saved arguments = .ok filter ∧
      let source := LogSource.ofNodes settings.nodes
      let selected := selectNodes source saved arguments
      let polling := Polling.System.idle.startRun selected settings.fetchTimeout
      let view := { View.ofSettings settings with filter }.enter polling.generation
      console = ⟨settings, source, selected, polling, view⟩ := by
  unfold start at started
  split at started
  · cases started
  · next populated =>
    dsimp only at started
    split at started
    · cases started
    · next filter chosen =>
      exact ⟨mt List.isEmpty_iff.mpr populated, filter, chosen, (Except.ok.inj started).symm⟩

/-- A run begins when its settings can be adjusted and a console starts with them. -/
theorem begin_eq_ok_iff :
    begin compile settings saved arguments = .ok console ↔
      ∃ adjusted, settings.adjust saved arguments = (adjusted, .ok ()) ∧
        start compile adjusted saved arguments = .ok console := by
  unfold begin
  obtain ⟨adjusted, fault | _⟩ := settings.adjust saved arguments <;> simp

/-- A run that begins proceeds with its console, once it has told what it chose. -/
theorem run_of_begin (begun : begin compile settings saved arguments = .ok console) (path : String)
    (around : Surroundings) :
    run compile settings saved arguments path around =
      (console.settings, (console.proceed arguments path
        (around.note (choiceEvents compile console.settings saved arguments))).swap) := by
  obtain ⟨adjusted, adjusts, started⟩ := begin_eq_ok_iff.mp begun
  unfold run
  rw [adjusts]
  dsimp only
  rw [started]
  obtain ⟨-, filter, -, rfl⟩ := exists_of_start started
  rfl

/-- A run that does not begin ends with the fault, and prints nothing. -/
theorem run_of_begin_eq_error {fault : Fault}
    (fails : begin compile settings saved arguments = .error fault) (path : String)
    (around : Surroundings) :
    let left := (run compile settings saved arguments path around).2
    left.2 = .error fault ∧ left.1.printed = around.printed := by
  unfold begin at fails
  unfold run
  generalize settings.adjust saved arguments = adjustment at fails ⊢
  obtain ⟨adjusted, refused | _⟩ := adjustment
  · obtain rfl := Except.error.inj fails
    exact ⟨rfl, rfl⟩
  · dsimp only at fails ⊢
    rw [fails]
    exact ⟨rfl, rfl⟩

/-- What a console has that has begun. -/
structure Begun (compile : String → Option Matcher) (settings : Settings)
    (saved : Option Preferences) (arguments : Arguments) (console : Console) : Prop where
  settings_eq : console.settings = (settings.adjust saved arguments).1
  populated : console.settings.nodes ≠ []
  selected_eq :
    console.selected = selectNodes (LogSource.ofNodes console.settings.nodes) saved arguments
  filter_eq : chooseFilter compile saved arguments = .ok console.view.filter
  capacity_eq : console.view.capacity = Limits.capacity.clamp console.settings.capacity
  policy_eq : console.view.policy = console.settings.policy

/-- A console that begins has everything that `Begun` asks for. -/
theorem begun_of_begin (begun : begin compile settings saved arguments = .ok console) :
    Begun compile settings saved arguments console := by
  obtain ⟨adjusted, adjusts, started⟩ := begin_eq_ok_iff.mp begun
  obtain ⟨populated, filter, chosen, rfl⟩ := exists_of_start started
  exact
    { settings_eq := (congrArg Prod.fst adjusts).symm
      populated
      selected_eq := rfl
      filter_eq := chosen
      capacity_eq := rfl
      policy_eq := rfl }

/-- Polling leaves the preferences of the console alone. -/
theorem preferences_poll (console : Console) (around : Surroundings) :
    (console.poll around).1.preferences = console.preferences := by
  unfold poll
  rw [hearAll_fst]
  exact console.preferences_heard 0 _

/-- A run that ends keeps the preferences of the console that it proceeds with. -/
theorem kept_proceed {path : String} {around : Surroundings} {ending : Ending}
    (ended : (console.proceed arguments path around).1 = .ok ending) :
    ending.preferences = console.preferences ∧
      ending.Kept path (console.proceed arguments path around).2 := by
  obtain ⟨same, kept⟩ := kept_finish ended
  exact ⟨same.trans (console.preferences_poll around), kept⟩

/-- Without a command line nothing is exported, so that a run that has begun comes to its end. -/
theorem exists_of_proceed_none (console : Console) (path : String) (around : Surroundings) :
    ∃ ending, (console.proceed .none path around).1 = .ok ending :=
  ⟨_, rfl⟩

/-- The preferences that a run keeps are those of the console that it begins with. -/
theorem begin_of_run {path : String} {around : Surroundings} {ending : Ending}
    (ended : (run compile settings saved arguments path around).2.2 = .ok ending) :
    ∃ console, begin compile settings saved arguments = .ok console ∧
      ending.preferences = console.preferences ∧
      ending.Kept path (run compile settings saved arguments path around).2.1 := by
  cases begun : begin compile settings saved arguments with
  | error fault =>
    have failed := (run_of_begin_eq_error begun path around).1
    cases ended.symm.trans failed
  | ok console =>
    rw [run_of_begin begun] at ended ⊢
    exact ⟨console, rfl, kept_proceed ended⟩

/-- A run that saves its preferences leaves a file that is loaded as these preferences. -/
theorem exists_loaded_of_run {path : String} {around : Surroundings}
    (saves : (run compile settings saved arguments path around).2.2.bind Ending.saving = .ok ())
    (apart : (run compile settings saved arguments path around).2.1.LogsApart path) :
    ∃ ending, (run compile settings saved arguments path around).2.2 = .ok ending ∧
      Preferences.load (run compile settings saved arguments path around).2.1.files path =
        some ending.preferences := by
  obtain ⟨ending, ended, succeeds⟩ := exists_of_bind_eq_ok saves
  obtain ⟨-, -, -, kept⟩ := begin_of_run ended
  exact ⟨ending, ended, kept.loads succeeds apart⟩

/-- A run that begins without a command line comes to its end. -/
theorem exists_of_begin_none (begun : begin compile settings saved .none = .ok console)
    (path : String) (around : Surroundings) :
    ∃ ending, (run compile settings saved .none path around).2.2 = .ok ending := by
  rw [run_of_begin begun]
  exact console.exists_of_proceed_none path _

end Console

end QueryTail
