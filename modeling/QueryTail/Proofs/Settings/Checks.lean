import Mathlib.Data.List.Induction
import QueryTail.Proofs.Node
import QueryTail.Proofs.Settings

/-!
# What the checks of a settings file come to

Every value of a settings file is used or told about. A value that is allowed takes effect without a
warning, and any other value that is given leaves the default and gives one warning (`Judged`). The
entries of the list of nodes are judged one after the other: each is kept or gives one warning, and
those that are kept are the first ones of their names that there is room for (`Checked.run`).
Nothing else is ever warned of (`ofRaw_judged`).
-/

namespace QueryTail.Settings

/-! ### Single values -/

/-- What becomes of a value that may be given. `takes` says when a setting has taken a value. -/
structure Judged {Given Setting : Type} (allowed : Given → Prop) (takes : Given → Setting → Prop)
    (standard : Setting) (given : Option Given) (setting : Setting) (warnings : List String) :
    Prop where
  absent : given = none → setting = standard ∧ warnings = []
  accepted : ∀ value, given = some value → allowed value → takes value setting ∧ warnings = []
  refused : ∀ value, given = some value → ¬ allowed value →
    setting = standard ∧ ∃ warning, warnings = [warning]

/-- A number is judged by its limits. -/
theorem judged_checkNumber (field : String) (limits : Limits) (given : Option Nat) :
    Judged (fun value => limits.least ≤ value ∧ value ≤ limits.greatest) Eq limits.standard given
      (checkNumber field limits given).1 (checkNumber field limits given).2 where
  absent := by
    rintro rfl
    exact ⟨rfl, rfl⟩
  accepted := by
    rintro value rfl inside
    have taken : checkNumber field limits (some value) = (value, []) :=
      if_pos (Limits.holds_iff.mpr inside)
    rw [taken]
    exact ⟨rfl, rfl⟩
  refused := by
    rintro value rfl outside
    have replaced : checkNumber field limits (some value) =
        (limits.standard, [rangeWarning field limits value]) :=
      if_neg fun holds => outside (Limits.holds_iff.mp holds)
    rw [replaced]
    exact ⟨rfl, _, rfl⟩

/-- A policy is found by its label and by nothing else. -/
theorem ofLabel?_eq_some_iff {label : String} {policy : CapacityPolicy} :
    CapacityPolicy.ofLabel? label = some policy ↔ policy.label = label := by
  constructor
  · intro found
    unfold CapacityPolicy.ofLabel? at found
    split at found
    · next same => rw [same, ← Option.some.inj found, CapacityPolicy.label]
    · split at found
      · next same => rw [same, ← Option.some.inj found, CapacityPolicy.label]
      · cases found
  · rintro rfl
    exact CapacityPolicy.ofLabel?_label policy

/-- A policy is judged by its word, in upper or lower case. -/
theorem judged_checkPolicy (given : Option String) :
    Judged (fun word => Text.lowered word ∈ ["reset", "retain"])
      (fun word policy => policy.label = Text.lowered word) .reset given
      (checkPolicy given).1 (checkPolicy given).2 where
  absent := by
    rintro rfl
    exact ⟨rfl, rfl⟩
  accepted := by
    rintro word rfl known
    have labels : Text.lowered word ∈ [CapacityPolicy.reset, .retain].map CapacityPolicy.label :=
      known
    obtain ⟨policy, -, found⟩ := List.mem_map.mp labels
    rw [checkPolicy, ofLabel?_eq_some_iff.mpr found]
    exact ⟨found, rfl⟩
  refused := by
    rintro word rfl unknown
    have nothing : CapacityPolicy.ofLabel? (Text.lowered word) = none := by
      refine Option.eq_none_iff_forall_ne_some.mpr fun policy found => unknown ?_
      rw [← ofLabel?_eq_some_iff.mp found]
      cases policy
      · exact List.mem_cons_self
      · exact List.mem_cons_of_mem _ List.mem_cons_self
    rw [checkPolicy, nothing]
    exact ⟨rfl, _, rfl⟩

/-- The words of the levels of a log are these five. -/
theorem any_word_iff {word : String} :
    (LogLevel.all.any fun level => level.word == word) = true ↔
      word ∈ ["error", "warn", "info", "debug", "trace"] := by
  have words : ["error", "warn", "info", "debug", "trace"] = LogLevel.all.map LogLevel.word := rfl
  rw [words, List.any_eq_true, List.mem_map]
  simp only [beq_iff_eq]

/-- A level that is taken is kept as it is written. -/
theorem judged_checkLevel (given : Option String) :
    Judged (fun word => Text.lowered word ∈ ["error", "warn", "info", "debug", "trace"])
      (fun word level => level = some word) none given
      (checkLevel given).1 (checkLevel given).2 where
  absent := by
    rintro rfl
    exact ⟨rfl, rfl⟩
  accepted := by
    rintro word rfl known
    rw [checkLevel, if_pos (any_word_iff.mpr known)]
    exact ⟨rfl, rfl⟩
  refused := by
    rintro word rfl unknown
    rw [checkLevel, if_neg fun found => unknown (any_word_iff.mp found)]
    exact ⟨rfl, _, rfl⟩

/-! ### Nodes -/

/-- An entry that has a name and a path, blanks around them not counted. -/
def Usable (node : RawNode) : Prop :=
  bare node.id ≠ "" ∧ bare node.path ≠ ""

instance (node : RawNode) : Decidable (Usable node) :=
  inferInstanceAs (Decidable (_ ∧ _))

/-- An entry with an empty name or path cannot be used. -/
theorem isEmpty_iff {node : RawNode} :
    ((bare node.id).isEmpty || (bare node.path).isEmpty) = true ↔ ¬ Usable node := by
  simp [Usable, or_iff_not_imp_left]

/-- The nodes of the entries that can be used. -/
def usableNodes (nodes : List RawNode) : List Node :=
  (nodes.filter fun node => Usable node).map fun node => ⟨bare node.id, bare node.path⟩

/-- One more entry is one more usable node if it can be used. -/
theorem usableNodes_concat (nodes : List RawNode) (node : RawNode) :
    usableNodes (nodes ++ [node]) =
      usableNodes nodes ++ if Usable node then [⟨bare node.id, bare node.path⟩] else [] := by
  unfold usableNodes
  rw [List.filter_append, List.map_append, List.filter_cons, List.filter_nil]
  by_cases usable : Usable node
  · simp [usable]
  · simp [usable]

/-- The nodes whose name no earlier node has. -/
def firstOfEachName (nodes : List Node) : List Node :=
  (nodes.zipIdx.filter fun placed =>
    (nodes.take placed.2).all fun earlier => earlier.id ≠ placed.1.id).map Prod.fst

/-- One more node is kept if its name is a new one. -/
theorem firstOfEachName_concat (nodes : List Node) (node : Node) :
    firstOfEachName (nodes ++ [node]) =
      firstOfEachName nodes ++ if ∃ held ∈ nodes, held.id = node.id then [] else [node] := by
  have before : ∀ placed ∈ nodes.zipIdx,
      (((nodes ++ [node]).take placed.2).all fun earlier => earlier.id ≠ placed.1.id) =
        (nodes.take placed.2).all fun earlier => earlier.id ≠ placed.1.id := by
    intro placed among
    have inside : placed.2 < nodes.length := List.snd_lt_of_mem_zipIdx among
    rw [List.take_append_of_le_length (Nat.le_of_lt inside)]
  have all : (nodes ++ [node]).take (0 + nodes.length) = nodes := by
    rw [Nat.zero_add, List.take_left]
  unfold firstOfEachName
  rw [List.zipIdx_append, List.filter_append, List.map_append, List.filter_congr before,
    List.zipIdx_singleton, List.filter_cons, List.filter_nil, all]
  by_cases held : ∃ held ∈ nodes, held.id = node.id
  · simp [held]
  · simp_all

/-- Keeping the first node of each name keeps all names. -/
theorem mem_names_firstOfEachName {nodes : List Node} {id : String} :
    id ∈ (firstOfEachName nodes).map Node.id ↔ id ∈ nodes.map Node.id := by
  induction nodes using List.reverseRecOn with
  | nil => rfl
  | append_singleton nodes node ih =>
    rw [firstOfEachName_concat, List.map_append, List.mem_append, ih, List.map_append,
      List.mem_append]
    by_cases held : ∃ held ∈ nodes, held.id = node.id
    · rw [if_pos held]
      obtain ⟨other, among, same⟩ := held
      constructor
      · rintro (found | found)
        · exact .inl found
        · cases found
      · rintro (found | found)
        · exact .inl found
        · rw [List.mem_singleton.mp found, ← same]
          exact .inl (List.mem_map_of_mem among)
    · rw [if_neg held]

/-- What the checks of the entries so far have come to. -/
structure Checked (nodes : List RawNode) (check : NodeCheck) : Prop where
  kept : check.kept = (firstOfEachName (usableNodes nodes)).take maxNodes
  met : ∀ id, id ∈ check.met ↔ id ∈ (usableNodes nodes).map Node.id
  counted : check.kept.length + check.warnings.length = nodes.length

namespace Checked

variable {nodes : List RawNode} {check : NodeCheck}

/-- Before the first entry nothing is kept and nothing is warned of. -/
theorem start : Checked [] ⟨[], [], []⟩ where
  kept := rfl
  met _ := Iff.rfl
  counted := rfl

/-- The names of the nodes that are kept have been met. -/
theorem names_kept (checked : Checked nodes check) {id : String}
    (among : id ∈ check.kept.map Node.id) : id ∈ check.met := by
  rw [checked.kept] at among
  obtain ⟨node, kept, rfl⟩ := List.mem_map.mp among
  rw [checked.met, ← mem_names_firstOfEachName]
  exact List.mem_map_of_mem (List.mem_of_mem_take kept)

/-- An entry that cannot be used. -/
theorem unusable (checked : Checked nodes check) {node : RawNode} (number : Nat)
    (useless : ¬ Usable node) : Checked (nodes ++ [node]) (check.step (node, number)) := by
  have same : usableNodes (nodes ++ [node]) = usableNodes nodes := by
    rw [usableNodes_concat, if_neg useless, List.append_nil]
  unfold NodeCheck.step
  dsimp only
  rw [if_pos (isEmpty_iff.mpr useless)]
  constructor
  · rw [same]
    exact checked.kept
  · rw [same]
    exact checked.met
  · have before := checked.counted
    simp only [List.length_cons, List.length_append, List.length_nil]
    omega

/-- An entry whose name was met before. -/
theorem repeated (checked : Checked nodes check) {node : RawNode} (number : Nat)
    (usable : Usable node) (met : bare node.id ∈ check.met) :
    Checked (nodes ++ [node]) (check.step (node, number)) := by
  have more : usableNodes (nodes ++ [node]) =
      usableNodes nodes ++ [⟨bare node.id, bare node.path⟩] := by
    rw [usableNodes_concat, if_pos usable]
  have names := (checked.met _).mp met
  have held : ∃ held ∈ usableNodes nodes, held.id = bare node.id := List.mem_map.mp names
  unfold NodeCheck.step
  dsimp only
  rw [if_neg fun empty => isEmpty_iff.mp empty usable, if_pos (List.contains_iff_mem.mpr met)]
  constructor
  · rw [more, firstOfEachName_concat, if_pos held, List.append_nil]
    exact checked.kept
  · intro id
    rw [more, List.map_append, List.mem_append, List.map_singleton, List.mem_singleton]
    constructor
    · intro known
      exact .inl ((checked.met id).mp known)
    · rintro (known | rfl)
      · exact (checked.met id).mpr known
      · exact met
  · have before := checked.counted
    simp only [List.length_cons, List.length_append, List.length_nil]
    omega

/-- The kept nodes with one more, as far as there is room. -/
theorem take_concat (nodes : List Node) (node : Node) :
    (nodes ++ [node]).take maxNodes =
      if maxNodes ≤ (nodes.take maxNodes).length then nodes.take maxNodes
      else nodes.take maxNodes ++ [node] := by
  rw [List.take_append, List.length_take]
  split
  · next full =>
    have none : maxNodes - nodes.length = 0 := by omega
    rw [none, List.take_zero, List.append_nil]
  · next room =>
    have one : [node].length ≤ maxNodes - nodes.length := by
      rw [List.length_singleton]
      omega
    have whole : nodes.length ≤ maxNodes := by omega
    rw [List.take_of_length_le one, List.take_of_length_le whole]

/-- An entry whose name is new. -/
theorem fresh (checked : Checked nodes check) {node : RawNode} (number : Nat)
    (usable : Usable node) (unmet : bare node.id ∉ check.met) :
    Checked (nodes ++ [node]) (check.step (node, number)) := by
  have more : usableNodes (nodes ++ [node]) =
      usableNodes nodes ++ [⟨bare node.id, bare node.path⟩] := by
    rw [usableNodes_concat, if_pos usable]
  have unheld : ¬ ∃ held ∈ usableNodes nodes, held.id = bare node.id := fun held =>
    unmet ((checked.met _).mpr (List.mem_map.mpr held))
  have unkept : bare node.id ∉ check.kept.map Node.id := fun kept =>
    unmet (checked.names_kept kept)
  have grown : (firstOfEachName (usableNodes (nodes ++ [node]))).take maxNodes =
      if maxNodes ≤ check.kept.length then check.kept
      else check.kept ++ [⟨bare node.id, bare node.path⟩] := by
    rw [more, firstOfEachName_concat, if_neg unheld, take_concat, ← checked.kept]
  have before := checked.counted
  have names : ∀ id, id ∈ bare node.id :: check.met ↔
      id ∈ (usableNodes (nodes ++ [node])).map Node.id := by
    intro id
    rw [more, List.map_append, List.mem_append, List.map_singleton, List.mem_singleton,
      List.mem_cons, checked.met, or_comm]
  unfold NodeCheck.step
  dsimp only
  rw [if_neg fun empty => isEmpty_iff.mp empty usable,
    if_neg fun met => unmet (List.contains_iff_mem.mp met)]
  cases added : Node.addTo check.kept ⟨bare node.id, bare node.path⟩ with
  | ok kept =>
    obtain ⟨-, room, rfl⟩ := Node.addTo_eq_ok_iff.mp added
    rw [if_neg (Nat.not_le_of_lt room)] at grown
    constructor
    · exact grown.symm
    · exact names
    · simp only [List.length_append, List.length_cons, List.length_nil]
      omega
  | error fault =>
    have full := (Node.taken_or_full_of_addTo added).resolve_left unkept
    rw [if_pos full] at grown
    constructor
    · exact grown.symm
    · exact names
    · simp only [List.length_append, List.length_cons, List.length_nil]
      omega

/-- Each entry is kept or warned of. An entry that there is no room for is remembered all the same,
so a later entry of its name is warned of as a repetition. -/
theorem step (checked : Checked nodes check) (node : RawNode) (number : Nat) :
    Checked (nodes ++ [node]) (check.step (node, number)) := by
  by_cases usable : Usable node
  · by_cases met : bare node.id ∈ check.met
    · exact checked.repeated number usable met
    · exact checked.fresh number usable met
  · exact checked.unusable number usable

/-- The checks of a whole list. -/
theorem run (nodes : List RawNode) :
    Checked nodes ((nodes.zipIdx 1).foldl NodeCheck.step ⟨[], [], []⟩) := by
  induction nodes using List.reverseRecOn with
  | nil => exact start
  | append_singleton nodes node ih =>
    rw [List.zipIdx_append, List.foldl_append, List.zipIdx_singleton, List.foldl_cons,
      List.foldl_nil]
    exact ih.step node (1 + nodes.length)

end Checked

/-- The nodes that are kept are the first ones of their names among those that can be used, as far
as there is room. Every other entry is warned of once. -/
theorem checkNodes_eq (nodes : List RawNode) :
    (checkNodes nodes).1 = (firstOfEachName (usableNodes nodes)).take maxNodes ∧
      (checkNodes nodes).2.length + (checkNodes nodes).1.length = nodes.length := by
  have checked := Checked.run nodes
  refine ⟨checked.kept, ?_⟩
  unfold checkNodes
  dsimp only
  rw [List.length_reverse, Nat.add_comm]
  exact checked.counted

/-- Settings that were loaded have no more nodes than there may be, whatever the file holds. -/
theorem length_nodes_load (files : FileTree) (path : String) :
    (load files path).1.nodes.length ≤ maxNodes := by
  rcases load_eq files path with same | ⟨raw, same⟩
  · rw [same]
    exact Nat.zero_le _
  · have kept : (ofRaw raw).1.nodes = (firstOfEachName (usableNodes raw.nodes)).take maxNodes :=
      (checkNodes_eq raw.nodes).1
    rw [same, kept]
    exact List.length_take_le _ _

/-! ### All settings -/

/-- The settings that come of a settings file, and the warnings about it: all numbers are in their
ranges, every value that is given is used or warned of, and so is every entry of the list of
nodes. -/
theorem ofRaw_judged (raw : RawSettings) :
    let (settings, warnings) := ofRaw raw
    (1 ≤ settings.capacity ∧ settings.capacity ≤ 10000) ∧
    (1 ≤ settings.pageSize ∧ settings.pageSize ≤ 1000) ∧
    (250 ≤ settings.interval ∧ settings.interval ≤ 60000) ∧
    (100 ≤ settings.fetchTimeout ∧ settings.fetchTimeout ≤ 120000) ∧
    (1 ≤ settings.highlight ∧ settings.highlight ≤ 300) ∧
    ∃ capacity policy pageSize interval fetchTimeout highlight nodes level : List String,
      warnings = capacity ++ policy ++ pageSize ++ interval ++ fetchTimeout ++ highlight ++ nodes ++
        level ∧
      Judged (fun value => 1 ≤ value ∧ value ≤ 10000) Eq standard.capacity raw.tail.capacity
        settings.capacity capacity ∧
      Judged (fun value => 1 ≤ value ∧ value ≤ 1000) Eq standard.pageSize raw.tail.pageSize
        settings.pageSize pageSize ∧
      Judged (fun value => 250 ≤ value ∧ value ≤ 60000) Eq standard.interval raw.tail.interval
        settings.interval interval ∧
      Judged (fun value => 100 ≤ value ∧ value ≤ 120000) Eq standard.fetchTimeout
        raw.tail.fetchTimeout settings.fetchTimeout fetchTimeout ∧
      Judged (fun value => 1 ≤ value ∧ value ≤ 300) Eq standard.highlight raw.tail.highlight
        settings.highlight highlight ∧
      Judged (fun word => Text.lowered word ∈ ["reset", "retain"])
        (fun word policy => policy.label = Text.lowered word) standard.policy raw.tail.policy
        settings.policy policy ∧
      Judged (fun word => Text.lowered word ∈ ["error", "warn", "info", "debug", "trace"])
        (fun word level => level = some word) standard.logLevel raw.logging.level
        settings.logLevel level ∧
      settings.nodes = (firstOfEachName (usableNodes raw.nodes)).take 64 ∧
      nodes.length + settings.nodes.length = raw.nodes.length := by
  have within := withinLimits_ofRaw raw
  obtain ⟨kept, counted⟩ := checkNodes_eq raw.nodes
  refine ⟨Limits.holds_iff.mp within.capacity, Limits.holds_iff.mp within.pageSize,
    Limits.holds_iff.mp within.interval, Limits.holds_iff.mp within.fetchTimeout,
    Limits.holds_iff.mp within.highlight, _, _, _, _, _, _, _, _, rfl, ?_⟩
  exact ⟨judged_checkNumber "capacity" Limits.capacity raw.tail.capacity,
    judged_checkNumber "page_size" Limits.pageSize raw.tail.pageSize,
    judged_checkNumber "poll_interval_ms" Limits.interval raw.tail.interval,
    judged_checkNumber "fetch_timeout_ms" Limits.fetchTimeout raw.tail.fetchTimeout,
    judged_checkNumber "highlight_secs" Limits.highlight raw.tail.highlight,
    judged_checkPolicy raw.tail.policy, judged_checkLevel raw.logging.level, kept, counted⟩

end QueryTail.Settings
