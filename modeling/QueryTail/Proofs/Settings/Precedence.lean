import QueryTail.Console.Basic
import QueryTail.Proofs.Settings.Checks

/-!
# Which settings count

The command line counts before saved preferences, and these before the settings file. The three
layers treat a number out of its range differently: on the command line it ends the adjustment, in
saved preferences it is passed over, and from a settings file it never comes. So whatever numbers
are given, the settings of a run that begins are in their ranges (`adjust_precedence`).

An adjustment fails for no other reason than a number of the command line that is out of its range
or a description of a node that cannot be followed (`Refused`).
-/

namespace QueryTail.Settings

variable {settings after : Settings} {limits : Limits} {specs : List String}

/-! ### Runs of changes -/

/-- Changes succeed when the first one does and then the others do. -/
theorem changes_cons_eq_ok_iff {first : Change} {rest : List Change} :
    settings.changes (first :: rest) = (after, .ok ()) ↔
      ∃ next, settings.change first = .ok next ∧ next.changes rest = (after, .ok ()) := by
  constructor
  · intro made
    rw [changes] at made
    split at made
    · next next first => exact ⟨next, first, made⟩
    · cases (Prod.mk.inj made).2
  · rintro ⟨next, first, later⟩
    rw [changes, first]
    exact later

/-- Changes in two parts succeed when the first part does and then the second does. -/
theorem changes_append_eq_ok_iff {first rest : List Change} :
    settings.changes (first ++ rest) = (after, .ok ()) ↔
      ∃ next, settings.changes first = (next, .ok ()) ∧ next.changes rest = (after, .ok ()) := by
  induction first generalizing settings with
  | nil =>
    constructor
    · intro made
      exact ⟨settings, rfl, made⟩
    · rintro ⟨next, nothing, made⟩
      obtain ⟨rfl, -⟩ := Prod.mk.inj nothing
      exact made
  | cons change first ih =>
    rw [List.cons_append, changes_cons_eq_ok_iff]
    simp only [changes_cons_eq_ok_iff, ih]
    constructor
    · rintro ⟨middle, changed, next, made, later⟩
      exact ⟨next, ⟨middle, changed, made⟩, later⟩
    · rintro ⟨next, ⟨middle, changed, made⟩, later⟩
      exact ⟨middle, changed, next, made, later⟩

/-! ### Numbers -/

/-- A number that the command line may give takes the place of the number that holds so far, if it
is in its range. -/
theorem changes_number_eq_ok_iff {make : UInt64 → Change} {field : String} {held : Nat}
    (put : Nat → Settings) (keeps : put held = settings)
    (makes : ∀ value, settings.change (make value) = (checkedNumber field limits value).map put)
    (flag : Option UInt64) :
    settings.changes (flag.map make).toList = (after, .ok ()) ↔
      (∀ value, flag = some value → limits.holds value.toNat = true) ∧
        after = put ((flag.map UInt64.toNat).getD held) := by
  cases flag with
  | none =>
    constructor
    · intro made
      exact ⟨nofun, (Prod.mk.inj made).1.symm.trans keeps.symm⟩
    · rintro ⟨-, rfl⟩
      exact Prod.ext keeps.symm rfl
  | some value =>
    rw [Option.map_some, Option.toList_some, changes_cons_eq_ok_iff, makes, checkedNumber]
    constructor
    · rintro ⟨next, made, same⟩
      split at made
      · next inside =>
        obtain ⟨rfl, -⟩ := Prod.mk.inj same
        refine ⟨?_, (Except.ok.inj made).symm⟩
        rintro _ ⟨⟩
        exact inside
      · cases made
    · rintro ⟨inside, rfl⟩
      rw [if_pos (inside value rfl)]
      exact ⟨_, rfl, rfl⟩

/-- A capacity is taken over when it is within its limits, and without one nothing changes. -/
theorem changes_capacity_eq_ok_iff (flag : Option UInt64) :
    settings.changes (flag.map .capacity).toList = (after, .ok ()) ↔
      (∀ value, flag = some value → Limits.capacity.holds value.toNat = true) ∧
        after = { settings with capacity := (flag.map UInt64.toNat).getD settings.capacity } :=
  changes_number_eq_ok_iff (fun capacity => { settings with capacity }) rfl (fun _ => rfl) flag

/-- A page size is taken over when it is within its limits, and without one nothing changes. -/
theorem changes_pageSize_eq_ok_iff (flag : Option UInt64) :
    settings.changes (flag.map .pageSize).toList = (after, .ok ()) ↔
      (∀ value, flag = some value → Limits.pageSize.holds value.toNat = true) ∧
        after = { settings with pageSize := (flag.map UInt64.toNat).getD settings.pageSize } :=
  changes_number_eq_ok_iff (fun pageSize => { settings with pageSize }) rfl (fun _ => rfl) flag

/-- An interval is taken over when it is within its limits, and without one nothing changes. -/
theorem changes_interval_eq_ok_iff (flag : Option UInt64) :
    settings.changes (flag.map .interval).toList = (after, .ok ()) ↔
      (∀ value, flag = some value → Limits.interval.holds value.toNat = true) ∧
        after = { settings with interval := (flag.map UInt64.toNat).getD settings.interval } :=
  changes_number_eq_ok_iff (fun interval => { settings with interval }) rfl (fun _ => rfl) flag

/-- Asking to retain rows never fails, and not asking changes nothing. -/
theorem changes_retain_eq_ok_iff (retain : Bool) :
    settings.changes (if retain then [.retain] else []) = (after, .ok ()) ↔
      after = { settings with policy := if retain then .retain else settings.policy } := by
  have same : settings.changes (if retain then [.retain] else []) =
      ({ settings with policy := if retain then .retain else settings.policy }, .ok ()) := by
    cases retain <;> rfl
  rw [same, Prod.mk.injEq, eq_comm]
  simp only [and_true]

/-! ### Nodes -/

/-- The names of the nodes that texts describe. -/
def describedNames (specs : List String) : List String :=
  specs.filterMap fun spec => (Node.ofSpec spec).toOption.map Node.id

/-- Why nodes that are described one after the other cannot all be added to a list. -/
inductive Refused (nodes : List Node) (specs : List String) : Prop where
  /-- A text describes no node. -/
  | malformed (spec : String) (among : spec ∈ specs) (wrong : Node.Malformed spec)
  /-- A node has the name of a node of the list, or of one that was described earlier. -/
  | repeated (before : List String) (spec : String) (later : List String) (node : Node)
      (place : specs = before ++ spec :: later) (described : Node.ofSpec spec = .ok node)
      (taken : node.id ∈ nodes.map Node.id ++ describedNames before)
  /-- There would be too many nodes. -/
  | crowded (many : maxNodes < nodes.length + specs.length)

/-- The name of the first description comes first. -/
theorem describedNames_cons {spec : String} {node : Node} (described : Node.ofSpec spec = .ok node)
    (specs : List String) : describedNames (spec :: specs) = node.id :: describedNames specs := by
  rw [describedNames, List.filterMap_cons, described]
  rfl

/-- After the first node was added the reasons against the other ones are the same. -/
theorem refused_cons_iff {nodes : List Node} {spec : String} {node : Node}
    (described : Node.ofSpec spec = .ok node) (free : node.id ∉ nodes.map Node.id) :
    Refused nodes (spec :: specs) ↔ Refused (nodes ++ [node]) specs := by
  have names (before : List String) (id : String) :
      id ∈ nodes.map Node.id ++ describedNames (spec :: before) ↔
        id ∈ (nodes ++ [node]).map Node.id ++ describedNames before := by
    rw [describedNames_cons described, List.map_append, List.map_singleton, List.append_assoc,
      List.singleton_append]
  constructor
  · rintro (⟨other, among, wrong⟩ | ⟨before, other, later, held, place, describes, taken⟩ | many)
    · rcases List.mem_cons.mp among with rfl | among
      · exact absurd wrong (Node.exists_ofSpec_iff.mp ⟨node, described⟩)
      · exact .malformed other among wrong
    · cases before with
      | nil =>
        obtain ⟨rfl, -⟩ := List.cons.inj place
        obtain rfl := Except.ok.inj (described.symm.trans describes)
        rw [describedNames, List.filterMap_nil, List.append_nil] at taken
        exact absurd taken free
      | cons first before =>
        obtain ⟨rfl, rest⟩ := List.cons.inj place
        exact .repeated before other later held rest describes ((names before held.id).mp taken)
    · refine .crowded ?_
      rw [List.length_append, List.length_singleton]
      rw [List.length_cons] at many
      omega
  · rintro (⟨other, among, wrong⟩ | ⟨before, other, later, held, place, describes, taken⟩ | many)
    · exact .malformed other (List.mem_cons_of_mem _ among) wrong
    · refine .repeated (spec :: before) other later held ?_ describes
        ((names before held.id).mpr taken)
      rw [place, List.cons_append]
    · refine .crowded ?_
      rw [List.length_append, List.length_singleton] at many
      rw [List.length_cons]
      omega

/-- A node is added if its description is well-formed, its name is free and there is room. -/
theorem change_node_eq_ok_iff {spec : String} :
    settings.change (.node spec) = .ok after ↔
      ∃ node, Node.ofSpec spec = .ok node ∧ node.id ∉ settings.nodes.map Node.id ∧
        settings.nodes.length < maxNodes ∧
        after = { settings with nodes := settings.nodes ++ [node] } := by
  constructor
  · intro made
    obtain ⟨node, described, added⟩ := exists_of_bind_eq_ok made
    obtain ⟨nodes, taken, rfl⟩ := exists_of_map_eq_ok added
    obtain ⟨free, room, rfl⟩ := Node.addTo_eq_ok_iff.mp taken
    exact ⟨node, described, free, room, rfl⟩
  · rintro ⟨node, described, free, room, rfl⟩
    rw [change, described]
    change (Node.addTo settings.nodes node).map _ = _
    rw [Node.addTo_eq_ok_iff.mpr ⟨free, room, rfl⟩]
    rfl

/-- Adding nodes changes nothing else. -/
theorem changes_nodes_eq (made : settings.changes (specs.map .node) = (after, .ok ())) :
    after = { settings with nodes := after.nodes } := by
  induction specs generalizing settings with
  | nil =>
    obtain ⟨rfl, -⟩ := Prod.mk.inj made
    rfl
  | cons spec specs ih =>
    obtain ⟨next, first, later⟩ := changes_cons_eq_ok_iff.mp made
    obtain ⟨node, -, -, -, rfl⟩ := change_node_eq_ok_iff.mp first
    have same := ih later
    exact same

/-- Nodes that are described can be added unless there is a reason against one of them. -/
theorem exists_changes_nodes_iff (room : settings.nodes.length ≤ maxNodes) :
    (∃ after, settings.changes (specs.map .node) = (after, .ok ())) ↔
      ¬ Refused settings.nodes specs := by
  induction specs generalizing settings with
  | nil =>
    constructor
    · rintro - (⟨spec, among, -⟩ | ⟨before, spec, later, node, place, -, -⟩ | many)
      · cases among
      · cases before <;> cases place
      · exact absurd room (Nat.not_le_of_lt many)
    · intro _
      exact ⟨settings, rfl⟩
  | cons spec specs ih =>
    simp only [List.map_cons, changes_cons_eq_ok_iff]
    constructor
    · rintro ⟨after, next, first, later⟩
      obtain ⟨node, described, free, vacant, rfl⟩ := change_node_eq_ok_iff.mp first
      rw [refused_cons_iff described free]
      refine (ih ?_).mp ⟨after, later⟩
      rw [List.length_append, List.length_singleton]
      exact vacant
    · intro welcome
      have wellFormed : ¬ Node.Malformed spec := fun wrong =>
        welcome (.malformed spec List.mem_cons_self wrong)
      obtain ⟨node, described⟩ := Node.exists_ofSpec_iff.mpr wellFormed
      have free : node.id ∉ settings.nodes.map Node.id := fun taken =>
        welcome (.repeated [] spec specs node rfl described (List.mem_append_left _ taken))
      have vacant : settings.nodes.length < maxNodes := by
        by_contra full
        refine welcome (.crowded ?_)
        rw [List.length_cons]
        omega
      have first := change_node_eq_ok_iff.mpr ⟨node, described, free, vacant, rfl⟩
      rw [refused_cons_iff described free] at welcome
      have room : (settings.nodes ++ [node]).length ≤ maxNodes := by
        rw [List.length_append, List.length_singleton]
        exact vacant
      obtain ⟨after, later⟩ := (@ih { settings with nodes := settings.nodes ++ [node] } room).mpr
        welcome
      exact ⟨after, _, first, later⟩

/-! ### All layers -/

/-- The command line is followed if its nodes can be added and its numbers are in their ranges. -/
theorem withArguments_eq_ok_iff {arguments : Arguments} :
    settings.withArguments arguments = (after, .ok ()) ↔
      ∃ nodes, settings.changes (arguments.nodes.map .node) = ({ settings with nodes }, .ok ()) ∧
        (∀ value, arguments.capacity = some value → Limits.capacity.holds value.toNat = true) ∧
        (∀ value, arguments.pageSize = some value → Limits.pageSize.holds value.toNat = true) ∧
        (∀ value, arguments.interval = some value → Limits.interval.holds value.toNat = true) ∧
        after =
          { settings with
            nodes
            capacity := (arguments.capacity.map UInt64.toNat).getD settings.capacity
            pageSize := (arguments.pageSize.map UInt64.toNat).getD settings.pageSize
            interval := (arguments.interval.map UInt64.toNat).getD settings.interval
            policy := if arguments.retain then .retain else settings.policy } := by
  simp only [withArguments, changesOf, changes_append_eq_ok_iff, changes_capacity_eq_ok_iff,
    changes_pageSize_eq_ok_iff, changes_interval_eq_ok_iff, changes_retain_eq_ok_iff]
  constructor
  · rintro ⟨_, ⟨_, ⟨_, ⟨added, nodes, capacity, rfl⟩, pageSize, rfl⟩, interval, rfl⟩, rfl⟩
    have onlyNodes := changes_nodes_eq nodes
    refine ⟨added.nodes, ?_, capacity, pageSize, interval, ?_⟩
    · rw [← onlyNodes]
      exact nodes
    · rw [onlyNodes]
  · rintro ⟨nodes, added, capacity, pageSize, interval, rfl⟩
    exact ⟨_, ⟨_, ⟨_, ⟨_, added, capacity, rfl⟩, pageSize, rfl⟩, interval, rfl⟩, rfl⟩

/-- A number of the command line counts before a saved one in its range, and this before the number
of the settings file. -/
structure Prevails (least greatest : Nat) (flag saved : Option UInt64) (configured result : Nat) :
    Prop where
  of_flag : ∀ value, flag = some value → result = value.toNat
  of_saved : flag = none → ∀ value, saved = some value →
    least ≤ value.toNat ∧ value.toNat ≤ greatest → result = value.toNat
  of_configured : flag = none →
    (∀ value, saved = some value → ¬ (least ≤ value.toNat ∧ value.toNat ≤ greatest)) →
    result = configured

/-- Of a flag, a saved number and a configured one, the choice that is made prevails. -/
theorem prevails (limits : Limits) (flag saved : Option UInt64) (configured : Nat) :
    Prevails limits.least limits.greatest flag saved configured
      ((flag.map UInt64.toNat).getD
        (saved.elim configured fun value => preferNumber limits value configured)) where
  of_flag := by
    rintro value rfl
    rfl
  of_saved := by
    rintro rfl value rfl inside
    exact preferNumber_of_holds (Limits.holds_iff.mpr inside) configured
  of_configured := by
    rintro rfl outside
    cases saved with
    | none => rfl
    | some value => exact if_neg fun holds => outside value rfl (Limits.holds_iff.mp holds)

/-- The settings file and saved preferences, as far as adjustments look at them. -/
theorem withPreferences_eq (settings : Settings) (saved : Option Preferences) :
    settings.withPreferences saved =
      { settings with
        capacity := (saved.map Preferences.capacity).elim settings.capacity fun value =>
          preferNumber Limits.capacity value settings.capacity
        policy := (saved.map Preferences.policy).getD settings.policy
        pageSize := (saved.map Preferences.pageSize).elim settings.pageSize fun value =>
          preferNumber Limits.pageSize value settings.pageSize
        interval := (saved.map Preferences.interval).elim settings.interval fun value =>
          preferNumber Limits.interval value settings.interval } := by
  cases saved <;> rfl

/-- A number of the command line that is out of its range. -/
def OutOfRange (least greatest : Nat) (flag : Option UInt64) : Prop :=
  ∃ value, flag = some value ∧ ¬ (least ≤ value.toNat ∧ value.toNat ≤ greatest)

/-- A flag is in its range if it is not given or the limits hold of it. -/
theorem not_outOfRange_iff {flag : Option UInt64} :
    ¬ OutOfRange limits.least limits.greatest flag ↔
      ∀ value, flag = some value → limits.holds value.toNat = true := by
  unfold OutOfRange
  constructor
  · intro inside value given
    by_contra outside
    exact inside ⟨value, given, fun within => outside (Limits.holds_iff.mpr within)⟩
  · rintro inside ⟨value, given, outside⟩
    exact outside (Limits.holds_iff.mp (inside value given))

/-- The command line is followed unless a number is out of its range or a node is refused. -/
theorem withArguments_succeeds_iff (room : settings.nodes.length ≤ maxNodes)
    (arguments : Arguments) :
    (settings.withArguments arguments).2 = .ok () ↔
      ¬ (OutOfRange 1 10000 arguments.capacity ∨ OutOfRange 1 1000 arguments.pageSize ∨
        OutOfRange 250 60000 arguments.interval ∨ Refused settings.nodes arguments.nodes) := by
  have capacity := @not_outOfRange_iff Limits.capacity arguments.capacity
  have pageSize := @not_outOfRange_iff Limits.pageSize arguments.pageSize
  have interval := @not_outOfRange_iff Limits.interval arguments.interval
  rw [not_or, not_or, not_or, ← exists_changes_nodes_iff room]
  constructor
  · intro succeeded
    have followed : settings.withArguments arguments =
        ((settings.withArguments arguments).1, .ok ()) := Prod.ext rfl succeeded
    obtain ⟨nodes, added, first, second, third, -⟩ := withArguments_eq_ok_iff.mp followed
    exact ⟨capacity.mpr first, pageSize.mpr second, interval.mpr third, _, added⟩
  · rintro ⟨first, second, third, after, added⟩
    rw [changes_nodes_eq added] at added
    rw [withArguments_eq_ok_iff.mpr ⟨after.nodes, added, capacity.mp first, pageSize.mp second,
      interval.mp third, rfl⟩]

/-- After a successful adjustment each setting is the one of the first layer that has a say. An
adjustment fails exactly if a number of the command line is out of its range or one of its nodes is
refused. -/
theorem adjust_precedence (files : FileTree) (path : String) (saved : Option Preferences)
    (arguments : Arguments) :
    let configured := (load files path).1
    let adjusted := configured.adjust saved arguments
    (adjusted.2 = .ok () →
      Prevails 1 10000 arguments.capacity (saved.map Preferences.capacity) configured.capacity
        adjusted.1.capacity ∧
      Prevails 1 1000 arguments.pageSize (saved.map Preferences.pageSize) configured.pageSize
        adjusted.1.pageSize ∧
      Prevails 250 60000 arguments.interval (saved.map Preferences.interval) configured.interval
        adjusted.1.interval ∧
      (1 ≤ adjusted.1.capacity ∧ adjusted.1.capacity ≤ 10000) ∧
      (1 ≤ adjusted.1.pageSize ∧ adjusted.1.pageSize ≤ 1000) ∧
      (250 ≤ adjusted.1.interval ∧ adjusted.1.interval ≤ 60000) ∧
      (View.ofSettings adjusted.1).capacity = adjusted.1.capacity ∧
      adjusted.1.policy =
        if arguments.retain then .retain
        else (saved.map Preferences.policy).getD configured.policy) ∧
    ((∃ fault, adjusted.2 = .error fault) ↔
      OutOfRange 1 10000 arguments.capacity ∨ OutOfRange 1 1000 arguments.pageSize ∨
        OutOfRange 250 60000 arguments.interval ∨ Refused configured.nodes arguments.nodes) := by
  intro configured adjusted
  have within : adjusted.1.WithinLimits :=
    (withinLimits_load files path).adjust saved arguments
  constructor
  · intro followed
    have whole : (configured.withPreferences saved).withArguments arguments =
        (adjusted.1, .ok ()) := Prod.ext rfl followed
    obtain ⟨nodes, -, -, -, -, result⟩ := withArguments_eq_ok_iff.mp whole
    rw [withPreferences_eq] at result
    rw [result] at within ⊢
    exact ⟨prevails Limits.capacity _ _ _, prevails Limits.pageSize _ _ _,
      prevails Limits.interval _ _ _, Limits.holds_iff.mp within.capacity,
      Limits.holds_iff.mp within.pageSize, Limits.holds_iff.mp within.interval,
      Limits.clamp_of_holds within.capacity, rfl⟩
  · have sameNodes : (configured.withPreferences saved).nodes = configured.nodes := by
      rw [withPreferences_eq]
    have room : (configured.withPreferences saved).nodes.length ≤ maxNodes := by
      rw [sameNodes]
      exact length_nodes_load files path
    have succeeds := withArguments_succeeds_iff room arguments
    rw [sameNodes] at succeeds
    rw [exists_eq_error_iff, ← not_iff_not, not_not]
    exact succeeds

/-- The saved capacity is out of its range, so that the one of the settings file counts; the saved
page size counts before the default, and the command line gives the interval and another node. A
second node of the name `a` is refused. -/
theorem adjust_precedence_layers :
    let text := "[tail]\ncapacity=7\n[[nodes]]\nid='a'\npath='x'"
    let files := (FileTree.empty []).set ["config.toml"] (some (.file (Text.utf8 text.toList)))
    let saved : Preferences := ⟨1, 10001, .retain, 20, 3000, [], .none⟩
    let arguments := { Arguments.none with interval := some 500, nodes := [" b = z"] }
    let adjusted := (load files "config.toml").1.adjust (some saved) arguments
    let again := (load files "config.toml").1.adjust (some saved)
      { arguments with nodes := ["b=z", "a =w"] }
    adjusted.2 = .ok () ∧ adjusted.1.capacity = 7 ∧ adjusted.1.pageSize = 20 ∧
      adjusted.1.interval = 500 ∧ adjusted.1.policy = .retain ∧
      ∃ fault, again.2 = .error fault := by
  intro text files saved arguments
  have loaded : (load files "config.toml").1 =
      { standard with capacity := 7, nodes := [⟨"a", "x"⟩] } := by
    decide +kernel
  have followed := adjust_precedence files "config.toml" (some saved) arguments
  have refused := adjust_precedence files "config.toml" (some saved)
    { arguments with nodes := ["b=z", "a =w"] }
  dsimp only at followed refused ⊢
  rw [loaded] at followed refused ⊢
  have outcome : (adjust { standard with capacity := 7, nodes := [⟨"a", "x"⟩] } (some saved)
      arguments).2 = .ok () := by
    decide +kernel
  obtain ⟨capacity, pageSize, interval, -, -, -, -, policy⟩ := followed.1 outcome
  refine ⟨outcome, capacity.of_configured rfl ?_, pageSize.of_saved rfl 20 rfl (by decide),
    interval.of_flag 500 rfl, policy, refused.2.mpr (.inr (.inr (.inr ?_)))⟩
  · rintro _ ⟨⟩
    decide
  · exact .repeated ["b=z"] "a =w" [] ⟨"a", "w"⟩ rfl (by decide +kernel) List.mem_cons_self

end QueryTail.Settings
