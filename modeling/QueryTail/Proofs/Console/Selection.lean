import QueryTail.Proofs.Console.Outcome
import QueryTail.Proofs.Filter
import QueryTail.Proofs.Settings

/-!
# Which nodes a run polls

Preferences that name no node stand for all nodes. But a run never saves such preferences: it names
the nodes that it polled (`polled_of_run`), also if they were all there were. So a node that is
added to the settings afterwards is not polled by the next run (`polled_again`).
-/

namespace QueryTail

namespace LogSource

variable {source : LogSource} {id : String}

@[simp] theorem mem_nodeIds : id ∈ source.nodeIds ↔ ∃ node ∈ source.nodes, node.id = id := by
  rw [nodeIds, mem_sortedDistinct, List.mem_map]

/-- The names of a source are in ascending order. -/
theorem nodeIds_ascending (source : LogSource) : source.nodeIds.Pairwise (· < ·) :=
  sortedDistinct_ascending _

/-- A source without names is a source without nodes. -/
theorem nodeIds_eq_nil_iff : source.nodeIds = [] ↔ source.nodes = [] := by
  simp [List.eq_nil_iff_forall_not_mem]

end LogSource

namespace Settings

variable {settings changed : Settings} {saved : Option Preferences} {arguments : Arguments}

/-- The names of the nodes in ascending order, each once. -/
def nodeIds (settings : Settings) : List String :=
  (LogSource.ofNodes settings.nodes).nodeIds

/-- Settings without names are settings without nodes. -/
theorem nodeIds_eq_nil_iff : settings.nodeIds = [] ↔ settings.nodes = [] :=
  LogSource.nodeIds_eq_nil_iff

/-- Saved preferences do not change the roster. -/
theorem nodes_withPreferences (settings : Settings) (saved : Option Preferences) :
    (settings.withPreferences saved).nodes = settings.nodes := by
  cases saved <;> rfl

/-- Of the changes only the addition of a node changes the nodes. -/
theorem nodes_change {change : Change} (other : ∀ spec, change ≠ .node spec)
    (made : settings.change change = .ok changed) : changed.nodes = settings.nodes := by
  cases change with
  | node spec => exact absurd rfl (other spec)
  | capacity value =>
    obtain ⟨capacity, -, rfl⟩ := exists_of_map_eq_ok made
    rfl
  | pageSize value =>
    obtain ⟨pageSize, -, rfl⟩ := exists_of_map_eq_ok made
    rfl
  | interval value =>
    obtain ⟨interval, -, rfl⟩ := exists_of_map_eq_ok made
    rfl
  | retain =>
    cases made
    rfl

/-- Changes that are not about nodes leave the roster alone. -/
theorem nodes_changes {changes : List Change}
    (others : ∀ change ∈ changes, ∀ spec, change ≠ .node spec) :
    (settings.changes changes).1.nodes = settings.nodes := by
  induction changes generalizing settings with
  | nil => rfl
  | cons first rest ih =>
    obtain ⟨other, later⟩ := List.forall_mem_cons.mp others
    unfold Settings.changes
    cases made : settings.change first with
    | error fault => rfl
    | ok changed => exact (ih later).trans (nodes_change other made)

/-- Without nodes on the command line the nodes of a run are those of its settings file. -/
theorem nodes_adjust (plain : arguments.nodes = []) :
    (settings.adjust saved arguments).1.nodes = settings.nodes := by
  refine (nodes_changes ?_).trans (settings.nodes_withPreferences saved)
  intro change asked spec same
  subst same
  rw [changesOf, plain] at asked
  simp at asked

end Settings

namespace Console

variable {compile : String → Option Matcher} {settings : Settings} {saved : Option Preferences}
  {arguments : Arguments}

/-! ### The nodes of a run -/

/-- The node whose page or failure a message tells. -/
def nodeOf? : Progress → Option String
  | .page _ node _ => some node
  | .fetchFailed _ node _ => some node
  | _ => none

/-- The nodes that a run polls in its first round, in order, if it can begin. -/
def polled (compile : String → Option Matcher) (settings : Settings) (saved : Option Preferences)
    (arguments : Arguments) (files : FileTree) : Except Fault (List String) :=
  (begin compile settings saved arguments).map fun console =>
    (console.firstRound files).filterMap nodeOf?

/-- The first round polls every chosen node once. -/
theorem nodes_firstRound (console : Console) (files : FileTree) :
    (console.firstRound files).filterMap nodeOf? = console.selected := by
  have told (node : String) :
      nodeOf? (console.report node (console.fetch files node)) = some node := by
    cases console.fetch files node <;> rfl
  rw [firstRound, List.filterMap_cons_none (by rfl), List.filterMap_map]
  simp [told]

/-- The nodes polled are the selection of the console that begins. -/
theorem polled_eq (files : FileTree) :
    polled compile settings saved arguments files =
      (begin compile settings saved arguments).map Console.selected := by
  unfold polled
  simp only [nodes_firstRound]

/-- A run saves the nodes that it polled. -/
theorem polled_of_run {path : String} {around : Surroundings} {ending : Ending}
    (ended : (run compile settings saved arguments path around).2.2 = .ok ending)
    (files : FileTree) :
    polled compile settings saved arguments files = .ok ending.preferences.selected := by
  obtain ⟨console, begun, same, -⟩ := begin_of_run ended
  rw [polled_eq, begun, same]
  rfl

/-! ### Choosing nodes -/

/-- Without nodes on the command line a run chooses among the nodes of its settings file. -/
theorem eq_selectNodes_of_polled (plain : arguments.nodes = []) {files : FileTree}
    {nodes : List String} (polls : polled compile settings saved arguments files = .ok nodes) :
    settings.nodes ≠ [] ∧
      nodes = selectNodes (LogSource.ofNodes settings.nodes) saved arguments := by
  rw [polled_eq] at polls
  obtain ⟨console, begun, rfl⟩ := exists_of_map_eq_ok polls
  have facts := begun_of_begin begun
  have kept : console.settings.nodes = settings.nodes := by
    rw [facts.settings_eq, Settings.nodes_adjust plain]
  rw [← kept]
  exact ⟨facts.populated, facts.selected_eq⟩

/-- A run without a command line begins with the settings file and the saved preferences alone. -/
theorem begin_none (compile : String → Option Matcher) (populated : settings.nodes ≠ [])
    (saved : Option Preferences) : ∃ console, begin compile settings saved .none = .ok console := by
  have kept : (settings.adjust saved .none).1.nodes = settings.nodes := Settings.nodes_adjust rfl
  have still : ¬(settings.adjust saved .none).1.nodes.isEmpty = true := by
    rwa [kept, List.isEmpty_iff]
  exact ⟨_, if_neg still⟩

/-- A run without a command line polls the nodes that it chooses, if there are any. -/
theorem polled_none (populated : settings.nodes ≠ []) (files : FileTree) :
    polled compile settings saved .none files =
      .ok (selectNodes (LogSource.ofNodes settings.nodes) saved .none) := by
  obtain ⟨console, begun⟩ := begin_none compile populated saved
  have polls : polled compile settings saved .none files = .ok console.selected := by
    rw [polled_eq, begun]
    rfl
  rw [polls, ← (eq_selectNodes_of_polled rfl polls).2]

/-- Names of nodes, in ascending order, are all chosen. -/
theorem namedNodes_of_subset {source : LogSource} {names : List String}
    (ascending : names.Pairwise (· < ·)) (known : names ⊆ source.nodeIds) :
    namedNodes source names = names := by
  have sorted : (namedNodes source names).Pairwise (· < ·) :=
    source.nodeIds_ascending.sublist List.filter_sublist
  refine sorted.eq_of_mem_iff ascending fun name => ?_
  rw [namedNodes, List.mem_filter, List.contains_iff_mem]
  exact and_iff_right_of_imp (known ·)

/-- Without saved preferences every node is selected. -/
theorem selectNodes_none (source : LogSource) (arguments : Arguments) :
    selectNodes source none arguments = source.nodeIds := by
  have unnamed : namedNodes source (savedSelection none arguments) = [] :=
    List.filter_eq_nil_iff.mpr fun _ _ => Bool.false_ne_true
  rw [selectNodes, unnamed]

/-- A saved selection that the source knows is selected again, unless the arguments name nodes. -/
theorem selectNodes_some {source : LogSource} {preferences : Preferences}
    (plain : arguments.nodes = []) (ascending : preferences.selected.Pairwise (· < ·))
    (known : preferences.selected ⊆ source.nodeIds) (named : preferences.selected ≠ []) :
    selectNodes source (some preferences) arguments = preferences.selected := by
  have selection : savedSelection (some preferences) arguments = preferences.selected := by
    simp [savedSelection, plain]
  rw [selectNodes, selection, namedNodes_of_subset ascending known]
  split
  · next empty => exact absurd empty named
  · rfl

/-- A run without preferences and without nodes on its command line polls all nodes of its settings,
and saves their names. A run with these preferences and without a command line, whose settings have
all these nodes, polls just these: it polls all of its own nodes exactly if none was added. -/
theorem polled_again (compile : String → Option Matcher) (settings grown : Settings)
    (arguments : Arguments) (path : String) (around : Surroundings) (ending : Ending)
    (files : FileTree) (plain : arguments.nodes = [])
    (ended : (run compile settings none arguments path around).2.2 = .ok ending)
    (contained : settings.nodeIds ⊆ grown.nodeIds) :
    let preferences := ending.preferences
    polled compile settings none arguments files = .ok settings.nodeIds ∧
      preferences.selected = settings.nodeIds ∧
      ending.Kept path (run compile settings none arguments path around).2.1 ∧
      polled compile grown (some preferences) .none files = .ok settings.nodeIds ∧
      (polled compile grown (some preferences) .none files = .ok grown.nodeIds ↔
        grown.nodeIds ⊆ settings.nodeIds) := by
  intro preferences
  have polls := polled_of_run ended files
  obtain ⟨-, -, -, kept⟩ := begin_of_run ended
  obtain ⟨populated, all⟩ := eq_selectNodes_of_polled plain polls
  rw [selectNodes_none] at all
  change preferences.selected = settings.nodeIds at all
  have ascending : settings.nodeIds.Pairwise (· < ·) := LogSource.nodeIds_ascending _
  have named : settings.nodeIds ≠ [] := fun empty =>
    populated (Settings.nodeIds_eq_nil_iff.mp empty)
  have stillPopulated : grown.nodes ≠ [] := fun empty =>
    named (List.subset_nil.mp (Settings.nodeIds_eq_nil_iff.mpr empty ▸ contained))
  have again : polled compile grown (some preferences) .none files = .ok settings.nodeIds := by
    rw [polled_none stillPopulated, ← all]
    rw [← all] at ascending contained named
    rw [selectNodes_some rfl ascending contained named]
  refine ⟨polls.trans (congrArg Except.ok all), all, kept, again, ?_⟩
  rw [again, Except.ok.injEq]
  constructor
  · exact fun same => same ▸ List.Subset.refl _
  · intro covered
    refine ascending.eq_of_mem_iff (LogSource.nodeIds_ascending _) fun name => ?_
    exact ⟨(contained ·), (covered ·)⟩

/-- A node is added between two runs. -/
theorem polled_again_added :
    let first : Node := ⟨"ns1", "ns1.jsonl"⟩
    let second : Node := ⟨"ns2", "ns2.jsonl"⟩
    let settings : Settings := { Settings.standard with nodes := [first] }
    let grown : Settings := { settings with nodes := [second, first] }
    let arguments : Arguments := { Arguments.none with capacity := some 5 }
    let around : Surroundings := ⟨.empty [], ⟨⟨[]⟩, none⟩, []⟩
    let compile : String → Option Matcher := fun _ => none
    let after := (run compile settings none arguments "session.json" around).2.1
    let loaded := Preferences.load after.files "session.json"
    ∃ ending, arguments.nodes = [] ∧
      (run compile settings none arguments "session.json" around).2.2 = .ok ending ∧
      settings.nodeIds ⊆ grown.nodeIds ∧ grown.nodeIds = ["ns1", "ns2"] ∧
      loaded = some ending.preferences ∧
      polled compile grown loaded .none after.files = .ok ["ns1"] := by
  intro first second settings grown arguments around compile after loaded
  have saves : (run compile settings none arguments "session.json" around).2.2.bind
      Ending.saving = .ok () := by
    decide +kernel
  have unlogged : after.log.path = none := by decide +kernel
  have contained : settings.nodeIds ⊆ grown.nodeIds := by decide +kernel
  obtain ⟨ending, ended, kept⟩ :=
    exists_loaded_of_run saves (Surroundings.logsApart_of_unlogged unlogged _)
  obtain ⟨-, -, -, again, -⟩ := polled_again compile settings grown arguments "session.json"
    around ending after.files rfl ended contained
  have names : settings.nodeIds = ["ns1"] := by decide +kernel
  refine ⟨ending, rfl, ended, contained, by decide +kernel, kept, ?_⟩
  rw [show loaded = _ from kept, again, names]

/-- The second of two runs with one session file does not poll the node that was added. -/
theorem added_node_not_polled :
    let first : Node := ⟨"ns1", "ns1.jsonl"⟩
    let second : Node := ⟨"ns2", "ns2.jsonl"⟩
    let settings : Settings := { Settings.standard with nodes := [first] }
    let grown : Settings := { settings with nodes := [first, second] }
    let around : Surroundings := ⟨.empty [], ⟨⟨[]⟩, none⟩, []⟩
    let compile : String → Option Matcher := fun _ => none
    let after := (run compile settings none .none "session.json" around).2.1
    let ended := (run compile settings none .none "session.json" around).2.2
    let saved := Preferences.load after.files "session.json"
    ended.toOption.isSome ∧ saved = ended.toOption.map Ending.preferences ∧
      (polled compile settings none .none around.files).toOption = some ["ns1"] ∧
      settings.nodeIds = ["ns1"] ∧ grown.nodeIds = ["ns1", "ns2"] ∧
      (polled compile grown saved .none after.files).toOption = some ["ns1"] := by
  intro first second settings grown around compile after ended saved
  have saves : ended.bind Ending.saving = .ok () := by decide +kernel
  have unlogged : after.log.path = none := by decide +kernel
  obtain ⟨ending, ends, kept⟩ :=
    exists_loaded_of_run saves (Surroundings.logsApart_of_unlogged unlogged _)
  have names : (ended.map fun ending => ending.preferences.selected) = .ok ["ns1"] := by
    decide +kernel
  rw [show ended = _ from ends] at names ⊢
  have selected : ending.preferences.selected = ["ns1"] := Except.ok.inj names
  have again : selectNodes (LogSource.ofNodes grown.nodes) (some ending.preferences) .none =
      ["ns1"] := by
    simp only [selectNodes, savedSelection, selected]
    decide +kernel
  refine ⟨rfl, kept, by decide +kernel, by decide +kernel, by decide +kernel, ?_⟩
  rw [show saved = _ from kept, polled_none (List.cons_ne_nil _ _), again]
  rfl

end Console

end QueryTail
