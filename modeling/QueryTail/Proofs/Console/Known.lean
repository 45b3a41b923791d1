import QueryTail.Proofs.Console.Preferences
import QueryTail.Proofs.Files.Tail
import QueryTail.Proofs.Settings.Roster

/-!
# Every polled node is known

A run polls nodes by their names, and its source looks each name up again among the nodes of the
settings. A fetch would fail for a name that no node has, and of two nodes with one name it would
read the log of the last. Neither can happen (`selected_known`): the names of the nodes differ, and
only names of nodes are selected, even if preferences name a node that is gone.

That names differ is owed to the addition of nodes (`Roster`). That nobody adds a node without a
name or a path, or with blanks around them, is owed to the two readers that make nodes
(`TidyRoster`).
-/

namespace QueryTail

/-! ### Tidy nodes -/

/-- A node has a name and a path, and no blanks are around them. -/
structure Node.Tidy (node : Node) : Prop where
  named : node.id ≠ ""
  placed : node.path ≠ ""
  bareName : Text.trimmed node.id = node.id
  barePath : Text.trimmed node.path = node.path

namespace Node

variable {node : Node} {spec : String} {id path : List Char}

/-- A node with a name and a place is tidy once both are trimmed. -/
theorem tidy_trim (named : Text.trim id ≠ []) (placed : Text.trim path ≠ []) :
    Tidy ⟨String.ofList (Text.trim id), String.ofList (Text.trim path)⟩ where
  named := mt String.ofList_eq_empty_iff.mp named
  placed := mt String.ofList_eq_empty_iff.mp placed
  bareName := by rw [Text.trimmed, String.toList_ofList, (Text.solid_trim id).trim_eq]
  barePath := by rw [Text.trimmed, String.toList_ofList, (Text.solid_trim path).trim_eq]

/-- The command line describes tidy nodes only. -/
theorem tidy_of_ofSpec (described : ofSpec spec = .ok node) : node.Tidy := by
  unfold ofSpec at described
  split at described
  · cases described
  · dsimp only at described
    split at described
    · cases described
    · next named =>
      split at described
      · cases described
      · next placed =>
        obtain rfl := Except.ok.inj described
        exact tidy_trim (mt List.isEmpty_iff.mpr named) (mt List.isEmpty_iff.mpr placed)

end Node

/-- What holds of the nodes of settings, wherever they come from. -/
structure TidyRoster (nodes : List Node) : Prop extends Roster nodes where
  tidy : ∀ node ∈ nodes, node.Tidy

namespace Settings

/-- The settings file gives tidy nodes only. -/
theorem tidy_of_mem_usableNodes {nodes : List RawNode} {node : Node}
    (among : node ∈ usableNodes nodes) : node.Tidy := by
  obtain ⟨raw, usable, rfl⟩ := List.mem_map.mp among
  obtain ⟨named, placed⟩ := of_decide_eq_true (List.mem_filter.mp usable).2
  exact Node.tidy_trim (fun empty => named (congrArg String.ofList empty))
    (fun empty => placed (congrArg String.ofList empty))

/-- Settings that are loaded have a tidy roster, whatever the file says. -/
theorem tidyRoster_load (files : FileTree) (path : String) :
    TidyRoster (load files path).1.nodes := by
  rcases load_eq files path with same | ⟨raw, same⟩
  · rw [same]
    exact { Roster.nil with tidy := fun _ among => nomatch among }
  · have kept : (ofRaw raw).1.nodes = (firstOfEachName (usableNodes raw.nodes)).take maxNodes :=
      (checkNodes_eq raw.nodes).1
    rw [same, kept]
    refine { roster_firstOfEachName _ with tidy := fun node among => ?_ }
    exact tidy_of_mem_usableNodes (mem_of_mem_firstOfEachName (List.mem_of_mem_take among))

end Settings

namespace TidyRoster

variable {nodes after : List Node} {node : Node} {settings changed : Settings}

/-- Adding a tidy node keeps a roster tidy. -/
theorem addTo (roster : TidyRoster nodes) (tidy : node.Tidy)
    (added : Node.addTo nodes node = .ok after) : TidyRoster after := by
  refine { roster.toRoster.addTo added with tidy := ?_ }
  obtain ⟨-, -, rfl⟩ := Node.addTo_eq_ok_iff.mp added
  exact List.forall_mem_append.mpr ⟨roster.tidy, List.forall_mem_singleton.mpr tidy⟩

/-- One change of the settings keeps the roster tidy. -/
theorem change {change : Settings.Change} (roster : TidyRoster settings.nodes)
    (made : settings.change change = .ok changed) : TidyRoster changed.nodes := by
  by_cases adds : ∃ spec, change = .node spec
  · obtain ⟨spec, rfl⟩ := adds
    obtain ⟨node, described, added⟩ := exists_of_bind_eq_ok made
    obtain ⟨nodes, taken, rfl⟩ := exists_of_map_eq_ok added
    exact roster.addTo (Node.tidy_of_ofSpec described) taken
  · rw [Settings.nodes_change (not_exists.mp adds) made]
    exact roster

/-- The command line may be refused halfway: the nodes that were added before are tidy, too. -/
theorem adjust (roster : TidyRoster settings.nodes) (saved : Option Preferences)
    (arguments : Arguments) : TidyRoster (settings.adjust saved arguments).1.nodes := by
  have preferred : TidyRoster (settings.withPreferences saved).nodes := by
    rw [settings.nodes_withPreferences saved]
    exact roster
  exact Settings.changes_keeps (fun settings => TidyRoster settings.nodes) TidyRoster.change
    preferred (Settings.changesOf arguments)

end TidyRoster

/-! ### Looking up -/

namespace LogSource

variable {source : LogSource} {node : Node} {id path : String}

/-- If no two nodes have one name, it does not matter that the last would count. -/
theorem path?_of_mem (roster : Roster source.nodes) (held : node ∈ source.nodes) :
    source.path? node.id = some node.path := by
  unfold path?
  cases found : source.nodes.reverse.find? fun other => other.id == node.id with
  | none =>
    have other := List.find?_eq_none.mp found node (List.mem_reverse.mpr held)
    exact absurd (beq_self_eq_true node.id) other
  | some other =>
    have also : other ∈ source.nodes := List.mem_reverse.mp (List.mem_of_find?_eq_some found)
    have sameName := List.find?_some found
    rw [roster.eq_of_id_eq also held (beq_iff_eq.mp sameName), Option.map_some]

/-- If nothing else is said, a bound is read by that is not the greatest of all. -/
theorem readBound_ofNodes_lt (nodes : List Node) :
    (ofNodes nodes).readBound.toNat + 1 < UInt64.size := by
  change defaultReadBound.toNat + 1 < UInt64.size
  decide

/-- A fetch from a node that is known reads the tail of its log, and nothing else. -/
theorem fetch_of_path? (known : source.path? id = some path) (files : FileTree) (size : Nat) :
    source.fetch files id size =
      (files.readTail source.profile path source.readBound).map fun read =>
        (pageOf path id size read).map Page.entries := by
  rw [fetch, fetchPage, known]
  exact Option.map_map ..

/-- A page fails only if the log cannot be read. -/
theorem unreadable_of_pageOf {size : Nat} {read : Except FileCause (List Char)}
    {fault : SourceFault}
    (failed : (pageOf path id size read).map Page.entries = .error fault) :
    ∃ cause, read = .error cause ∧ fault = .unreadable path cause := by
  cases read with
  | error cause => exact ⟨cause, rfl, (Except.error.inj failed).symm⟩
  | ok text => cases failed

end LogSource

namespace Console

/-- Whatever a settings file, preferences and a command line say, a run has at most 64 nodes, their
names differ, and each has a name and a path without blanks around them. If there is a node, then
some are selected, in ascending order. Each of them is the name of one node, whose path the source
has for it; a fetch reads the tail of the log at this path and fails only if that cannot be read.
The preferences and the command line that nodes are selected by need not be those that nodes were
added by. -/
theorem selected_known (files : FileTree) (path : String) (saved : Option Preferences)
    (arguments : Arguments)
    (populated : ((Settings.load files path).1.adjust saved arguments).1.nodes ≠ []) :
    let settings := ((Settings.load files path).1.adjust saved arguments).1
    (settings.nodes.map Node.id).Nodup ∧ settings.nodes.length ≤ 64 ∧
      (∀ node ∈ settings.nodes, node.id ≠ "" ∧ node.path ≠ "" ∧
        Text.trimmed node.id = node.id ∧ Text.trimmed node.path = node.path) ∧
      ∀ (preferences : Option Preferences) (given : Arguments),
        let source := LogSource.ofNodes settings.nodes
        let selected := selectNodes source preferences given
        selected ≠ [] ∧ selected.Pairwise (· < ·) ∧
          ∀ id ∈ selected, ∃ node ∈ settings.nodes, node.id = id ∧
            source.path? id = some node.path ∧
            ∀ later size, ∃ read,
              later.readTail source.profile node.path source.readBound = some read ∧
              source.fetch later id size =
                some ((LogSource.pageOf node.path id size read).map Page.entries) ∧
              ∀ fault, source.fetch later id size = some (.error fault) →
                ∃ cause, fault = .unreadable node.path cause := by
  intro settings
  have roster : TidyRoster settings.nodes :=
    (Settings.tidyRoster_load files path).adjust saved arguments
  refine ⟨roster.distinct, roster.length_le, fun node held => ?_, fun preferences given => ?_⟩
  · have tidy := roster.tidy node held
    exact ⟨tidy.named, tidy.placed, tidy.bareName, tidy.barePath⟩
  intro source selected
  refine ⟨selectNodes_ne_nil populated preferences given,
    selectNodes_ascending source preferences given, fun id chosen => ?_⟩
  obtain ⟨node, held, rfl⟩ :=
    LogSource.mem_nodeIds.mp (selectNodes_subset source preferences given chosen)
  have known : source.path? node.id = some node.path :=
    LogSource.path?_of_mem roster.toRoster held
  refine ⟨node, held, rfl, known, fun later size => ?_⟩
  obtain ⟨read, readable⟩ := later.exists_readTail source.profile node.path
    (LogSource.readBound_ofNodes_lt settings.nodes)
  have fetched : source.fetch later node.id size =
      some ((LogSource.pageOf node.path node.id size read).map Page.entries) := by
    rw [LogSource.fetch_of_path? known, readable, Option.map_some]
  refine ⟨read, readable, fetched, fun fault failed => ?_⟩
  rw [fetched] at failed
  obtain ⟨cause, -, reason⟩ := LogSource.unreadable_of_pageOf (Option.some.inj failed)
  exact ⟨cause, reason⟩

/-- Of the settings file the second entry is not used, because its name is taken. The command line
adds a node, and the preferences name it and one that is gone. -/
theorem selected_known_gone :
    let text := "[[nodes]]\nid=' a '\npath='x '\n[[nodes]]\nid='a'\npath='z'"
    let files := (FileTree.empty []).set ["config.toml"] (some (.file (Text.utf8 text.toList)))
    let saved : Preferences := ⟨1, 100, .retain, 20, 3000, ["gone", "b"], .none⟩
    let arguments := { Arguments.none with nodes := [" b = y=1 "] }
    let settings := ((Settings.load files "config.toml").1.adjust (some saved) arguments).1
    let source := LogSource.ofNodes settings.nodes
    settings.nodes = [⟨"a", "x"⟩, ⟨"b", "y=1"⟩] ∧
      selectNodes source (some saved) arguments = ["a", "b"] ∧
      selectNodes source (some saved) .none = ["b"] ∧ source.path? "b" = some "y=1" ∧
      ∀ fault, source.fetch files "b" 10 = some (.error fault) →
        ∃ cause, fault = .unreadable "y=1" cause := by
  intro text files saved arguments settings source
  let configured : Settings := { Settings.standard with nodes := [⟨"a", "x"⟩] }
  have loaded : (Settings.load files "config.toml").1 = configured := by decide +kernel
  have adjusted : settings = (configured.adjust (some saved) arguments).1 := by rw [← loaded]
  have nodes : settings.nodes = [⟨"a", "x"⟩, ⟨"b", "y=1"⟩] := by
    rw [adjusted]
    decide +kernel
  have populated : settings.nodes ≠ [] := by
    rw [nodes]
    exact List.cons_ne_nil _ _
  obtain ⟨-, -, -, known⟩ := selected_known files "config.toml" (some saved) arguments populated
  have all : selectNodes source (some saved) arguments = ["a", "b"] := by
    change selectNodes (LogSource.ofNodes settings.nodes) _ _ = _
    rw [nodes]
    decide +kernel
  have chosen : selectNodes source (some saved) .none = ["b"] := by
    change selectNodes (LogSource.ofNodes settings.nodes) _ _ = _
    rw [nodes]
    decide +kernel
  obtain ⟨-, -, looksUp⟩ := known (some saved) .none
  have path : source.path? "b" = some "y=1" := by
    change (LogSource.ofNodes settings.nodes).path? "b" = _
    rw [nodes]
    decide
  have member : "b" ∈ selectNodes source (some saved) .none := by
    rw [chosen]
    exact List.mem_singleton_self "b"
  obtain ⟨node, -, -, found, fetched⟩ := looksUp "b" member
  have same : node.path = "y=1" := Option.some.inj (found.symm.trans path)
  rw [same] at fetched
  obtain ⟨read, -, -, fails⟩ := fetched files 10
  exact ⟨nodes, all, chosen, path, fails⟩

end Console

end QueryTail
