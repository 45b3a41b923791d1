import Mathlib.Data.List.Nodup
import QueryTail.Proofs.Settings.Checks

/-!
# Adding nodes

The nodes of settings have names that differ from one another, and there are never too many of
them (`Roster`). It is the addition of a node that sees to this, whatever nodes are offered: what
comes of offers is the first node of each name, as far as there is room (`offered_roster`).

Nothing is asked of the name itself. The empty name is taken like any other
(`nameless_node_added`), and that no node of a run is nameless is owed to the readers of settings
files and of the command line, who make no such node.
-/

namespace QueryTail

/-- What holds of a list of nodes however nodes are added to it. -/
structure Roster (nodes : List Node) : Prop where
  distinct : (nodes.map Node.id).Nodup
  length_le : nodes.length ≤ maxNodes

namespace Roster

variable {nodes after : List Node} {node : Node}

/-- No nodes at all make a roster. -/
theorem nil : Roster [] := ⟨List.nodup_nil, Nat.zero_le _⟩

/-- Adding a node keeps a roster, if the node is accepted. -/
theorem addTo (roster : Roster nodes) (added : Node.addTo nodes node = .ok after) :
    Roster after := by
  obtain ⟨free, room, rfl⟩ := Node.addTo_eq_ok_iff.mp added
  constructor
  · rw [List.map_append, List.map_singleton, ← List.concat_eq_append]
    exact List.Nodup.concat free roster.distinct
  · rw [List.length_append, List.length_singleton]
    exact room

/-- A node of a roster is known by its name. -/
theorem eq_of_id_eq (roster : Roster nodes) {first second : Node} (held : first ∈ nodes)
    (also : second ∈ nodes) (same : first.id = second.id) : first = second :=
  List.inj_on_of_nodup_map roster.distinct held also same

end Roster

namespace Settings

variable {settings changed : Settings} {node : Node} {id : String}

/-! ### Offers -/

/-- A node is added when its name is new and there is room for it. -/
theorem addNode_eq_ok_iff :
    settings.addNode node = .ok changed ↔
      node.id ∉ settings.nodes.map Node.id ∧ settings.nodes.length < maxNodes ∧
        changed = { settings with nodes := settings.nodes ++ [node] } := by
  constructor
  · intro added
    obtain ⟨nodes, taken, rfl⟩ := exists_of_map_eq_ok added
    obtain ⟨free, room, rfl⟩ := Node.addTo_eq_ok_iff.mp taken
    exact ⟨free, room, rfl⟩
  · rintro ⟨free, room, rfl⟩
    rw [addNode, Node.addTo_eq_ok_iff.mpr ⟨free, room, rfl⟩]
    rfl

/-- A node is refused only because its name is taken or there is no room. -/
theorem taken_or_full_of_addNode {fault : SettingsFault}
    (refused : settings.addNode node = .error fault) :
    node.id ∈ settings.nodes.map Node.id ∨ maxNodes ≤ settings.nodes.length := by
  by_contra neither
  obtain ⟨free, room⟩ := not_or.mp neither
  rw [addNode_eq_ok_iff.mpr ⟨free, Nat.lt_of_not_le room, rfl⟩] at refused
  cases refused

/-- The settings after a node was offered; one that is refused changes nothing. -/
def offer (settings : Settings) (node : Node) : Settings :=
  match settings.addNode node with
  | .ok changed => changed
  | .error _ => settings

/-- The settings after nodes were offered, one after the other. -/
def offered (settings : Settings) (nodes : List Node) : Settings :=
  nodes.foldl offer settings

/-- Offering a node that is accepted adds it. -/
theorem offer_of_ok (added : settings.addNode node = .ok changed) :
    settings.offer node = changed := by
  rw [offer, added]

/-- Offering a node that is refused changes nothing. -/
theorem offer_of_error {fault : SettingsFault} (refused : settings.addNode node = .error fault) :
    settings.offer node = settings := by
  rw [offer, refused]

/-- Offering one node more comes after offering the others. -/
theorem offered_concat (settings : Settings) (nodes : List Node) (node : Node) :
    settings.offered (nodes ++ [node]) = (settings.offered nodes).offer node :=
  List.foldl_append

/-- A name is held after an offer if it was before, or if it was offered while there was room. -/
theorem mem_names_offer_iff :
    id ∈ (settings.offer node).nodes.map Node.id ↔
      id ∈ settings.nodes.map Node.id ∨ node.id = id ∧ settings.nodes.length < maxNodes := by
  cases added : settings.addNode node with
  | ok changed =>
    obtain ⟨-, room, rfl⟩ := addNode_eq_ok_iff.mp added
    rw [offer_of_ok added, List.map_append, List.map_singleton, List.mem_append,
      List.mem_singleton, and_iff_left room, eq_comm (a := id)]
  | error fault =>
    rw [offer_of_error added, iff_self_or]
    rintro ⟨rfl, room⟩
    exact (taken_or_full_of_addNode added).resolve_right (Nat.not_le_of_lt room)

/-- A name is held after offers if it was before, or if one of the offers with this name came while
there was room. -/
theorem mem_names_offered_iff {nodes : List Node} :
    id ∈ (settings.offered nodes).nodes.map Node.id ↔
      id ∈ settings.nodes.map Node.id ∨ ∃ before node later, nodes = before ++ node :: later ∧
        node.id = id ∧ (settings.offered before).nodes.length < maxNodes := by
  induction nodes generalizing settings with
  | nil => simp [offered]
  | cons first rest ih =>
    rw [offered, List.foldl_cons, ← offered, ih, mem_names_offer_iff]
    constructor
    · rintro ((held | ⟨same, room⟩) | ⟨before, node, later, rfl, same, room⟩)
      · exact .inl held
      · exact .inr ⟨[], first, rest, rfl, same, room⟩
      · exact .inr ⟨first :: before, node, later, rfl, same, room⟩
    · rintro (held | ⟨before, node, later, place, same, room⟩)
      · exact .inl (.inl held)
      · cases before with
        | nil =>
          obtain ⟨rfl, -⟩ := List.cons.inj place
          exact .inl (.inr ⟨same, room⟩)
        | cons other before =>
          obtain ⟨rfl, rfl⟩ := List.cons.inj place
          exact .inr ⟨before, node, later, rfl, same, room⟩

/-- Only nodes that are given are kept. -/
theorem mem_of_mem_firstOfEachName {nodes : List Node} {node : Node}
    (among : node ∈ firstOfEachName nodes) : node ∈ nodes := by
  obtain ⟨placed, first, rfl⟩ := List.mem_map.mp among
  exact List.fst_mem_of_mem_zipIdx (List.mem_of_mem_filter first)

/-- No two nodes that are kept have one name. -/
theorem nodup_names_firstOfEachName (nodes : List Node) :
    ((firstOfEachName nodes).map Node.id).Nodup := by
  induction nodes using List.reverseRecOn with
  | nil => exact List.nodup_nil
  | append_singleton nodes node ih =>
    rw [firstOfEachName_concat]
    split
    · rwa [List.append_nil]
    · next free =>
      rw [List.map_append, List.map_singleton, ← List.concat_eq_append]
      refine List.Nodup.concat (fun held => free ?_) ih
      exact List.mem_map.mp (mem_names_firstOfEachName.mp held)

/-- The first nodes of each name, as many as there is room for, make a roster. -/
theorem roster_firstOfEachName (nodes : List Node) :
    Roster ((firstOfEachName nodes).take maxNodes) where
  distinct := (nodup_names_firstOfEachName nodes).sublist ((List.take_sublist _ _).map _)
  length_le := List.length_take_le _ _

/-- What comes of offers to settings without nodes. -/
theorem offered_eq (vacant : settings.nodes = []) (nodes : List Node) :
    settings.offered nodes = { settings with nodes := (firstOfEachName nodes).take maxNodes } := by
  induction nodes using List.reverseRecOn with
  | nil =>
    change settings = { settings with nodes := [] }
    rw [← vacant]
  | append_singleton nodes node ih =>
    have held : (settings.offered nodes).nodes = (firstOfEachName nodes).take maxNodes := by
      rw [ih]
    rw [offered_concat]
    cases added : (settings.offered nodes).addNode node with
    | ok changed =>
      obtain ⟨free, room, rfl⟩ := addNode_eq_ok_iff.mp added
      rw [held] at free room
      have whole : (firstOfEachName nodes).take maxNodes = firstOfEachName nodes := by
        rw [List.length_take] at room
        exact List.take_of_length_le (by omega)
      have unknown : ¬∃ other ∈ nodes, other.id = node.id := by
        rw [whole] at free
        exact fun known => free (mem_names_firstOfEachName.mpr (List.mem_map.mpr known))
      rw [offer_of_ok added, firstOfEachName_concat, if_neg unknown, Checked.take_concat,
        if_neg (Nat.not_le_of_lt room), ih]
    | error fault =>
      have same : (firstOfEachName (nodes ++ [node])).take maxNodes =
          (firstOfEachName nodes).take maxNodes := by
        rw [firstOfEachName_concat]
        split
        · rw [List.append_nil]
        · next unknown =>
          have free : node.id ∉ (settings.offered nodes).nodes.map Node.id := by
            rw [held]
            intro taken
            have among := ((List.take_sublist _ _).map _).subset taken
            exact unknown (List.mem_map.mp (mem_names_firstOfEachName.mp among))
          have full := (taken_or_full_of_addNode added).resolve_left free
          rw [Checked.take_concat, if_pos (held ▸ full)]
      rw [offer_of_error added, same, ih]

/-- Whatever nodes are offered to the default settings, one after the other, those that are held are
the first ones of their names that there is room for. A node is taken, at the end and with nothing
else changed, if its name is free and there is room, and refused without any change otherwise. The
empty name is no exception: it is held if it was offered while there was room. -/
theorem offered_roster (nodes : List Node) :
    let after := standard.offered nodes
    after = { standard with nodes := (firstOfEachName nodes).take 64 } ∧
      (after.nodes.map Node.id).Nodup ∧ after.nodes.length ≤ 64 ∧
      (∀ node changed, after.addNode node = .ok changed ↔
        node.id ∉ after.nodes.map Node.id ∧ after.nodes.length < 64 ∧
          changed = { after with nodes := after.nodes ++ [node] }) ∧
      (∀ node fault, after.addNode node = .error fault → after.offer node = after) ∧
      ((∃ held ∈ after.nodes, held.id = "") ↔
        ∃ before node later, nodes = before ++ node :: later ∧ node.id = "" ∧
          (standard.offered before).nodes.length < 64) := by
  intro after
  have whole : after = { standard with nodes := (firstOfEachName nodes).take maxNodes } :=
    offered_eq rfl nodes
  have roster : Roster after.nodes := by
    rw [whole]
    exact roster_firstOfEachName nodes
  refine ⟨whole, roster.distinct, roster.length_le, ?_, ?_, ?_⟩
  · exact fun node changed => addNode_eq_ok_iff
  · exact fun node fault refused => offer_of_error refused
  · rw [← List.mem_map]
    exact mem_names_offered_iff.trans (or_iff_right List.not_mem_nil)

/-- A node without a name is taken. -/
theorem nameless_node_added :
    let nameless : Node := ⟨"", "q.jsonl"⟩
    standard.addNode nameless = .ok { standard with nodes := [nameless] } ∧
      ¬ ∀ nodes, ∀ held ∈ (standard.offered nodes).nodes, held.id ≠ "" := by
  intro nameless
  refine ⟨rfl, fun named => ?_⟩
  exact named [nameless] nameless List.mem_cons_self rfl

end Settings

end QueryTail
