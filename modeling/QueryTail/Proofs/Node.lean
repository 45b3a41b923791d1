import Mathlib.Data.List.TakeWhile
import Mathlib.Tactic.Push
import QueryTail.Node

/-!
# Lists of nodes and descriptions of nodes

When a list of nodes takes one more (`addTo_eq_ok_iff`), and which texts describe a node
(`exists_ofSpec_iff`).
-/

namespace QueryTail.Node

variable {nodes after : List Node} {node : Node} {text id path : List Char} {spec : String}

/-- A list takes a node at its end if the name is free and there is room. -/
theorem addTo_eq_ok_iff :
    addTo nodes node = .ok after ↔
      node.id ∉ nodes.map Node.id ∧ nodes.length < maxNodes ∧ after = nodes ++ [node] := by
  have taken : (nodes.any fun held => held.id == node.id) = true ↔ node.id ∈ nodes.map Node.id := by
    rw [List.any_eq_true, List.mem_map]
    simp only [beq_iff_eq]
  unfold addTo
  constructor
  · intro added
    split at added
    · cases added
    · next free =>
      split at added
      · cases added
      · next room =>
        refine ⟨?_, Nat.lt_of_not_le room, (Except.ok.inj added).symm⟩
        exact fun among => free (taken.mpr among)
  · rintro ⟨free, room, rfl⟩
    rw [if_neg fun found => free (taken.mp found), if_neg (Nat.not_le_of_lt room)]

/-- A node is refused only because its name is taken or there are as many nodes as there may be. -/
theorem taken_or_full_of_addTo {fault : SettingsFault} (refused : addTo nodes node = .error fault) :
    node.id ∈ nodes.map Node.id ∨ maxNodes ≤ nodes.length := by
  by_contra neither
  obtain ⟨free, room⟩ := not_or.mp neither
  rw [addTo_eq_ok_iff.mpr ⟨free, Nat.lt_of_not_le room, rfl⟩] at refused
  cases refused

/-- A text is split at its first equals sign. -/
theorem splitAtEquals_eq_some_iff :
    splitAtEquals text = some (id, path) ↔ text = id ++ '=' :: path ∧ '=' ∉ id := by
  unfold splitAtEquals
  constructor
  · intro found
    split at found
    · cases found
    · next c rest later =>
      obtain ⟨rfl, rfl⟩ := Prod.mk.inj (Option.some.inj found)
      have equals : c = '=' := by
        have stops := List.head?_dropWhile_not (· != '=') text
        rw [later] at stops
        simpa using stops
      constructor
      · rw [equals] at later
        rw [← later, List.takeWhile_append_dropWhile]
      · intro among
        have passed := List.mem_takeWhile_imp among
        simp at passed
  · rintro ⟨rfl, free⟩
    have passed : ∀ c ∈ id, (c != '=') = true := fun c among =>
      bne_iff_ne.mpr fun same => free (same ▸ among)
    rw [List.dropWhile_append_of_pos passed, List.takeWhile_append_of_pos passed]
    simp

/-- A text that describes no node: it has no equals sign, or nothing but blanks on one side of the
first one. -/
def Malformed (spec : String) : Prop :=
  ∀ id path, spec.toList = id ++ '=' :: path → '=' ∉ id → Text.trim id = [] ∨ Text.trim path = []

/-- A description makes a node unless it is malformed. -/
theorem exists_ofSpec_iff : (∃ node, ofSpec spec = .ok node) ↔ ¬ Malformed spec := by
  unfold ofSpec Malformed
  constructor
  · rintro ⟨node, described⟩ malformed
    split at described
    · cases described
    · next id path found =>
      obtain ⟨whole, first⟩ := splitAtEquals_eq_some_iff.mp found
      dsimp only at described
      split at described
      · cases described
      · next named =>
        split at described
        · cases described
        · next placed =>
          rcases malformed id path whole first with empty | empty
          · exact named (List.isEmpty_iff.mpr empty)
          · exact placed (List.isEmpty_iff.mpr empty)
  · intro wellFormed
    push Not at wellFormed
    obtain ⟨id, path, whole, first, named, placed⟩ := wellFormed
    rw [splitAtEquals_eq_some_iff.mpr ⟨whole, first⟩]
    dsimp only
    rw [if_neg fun empty => named (List.isEmpty_iff.mp empty),
      if_neg fun empty => placed (List.isEmpty_iff.mp empty)]
    exact ⟨_, rfl⟩

end QueryTail.Node
