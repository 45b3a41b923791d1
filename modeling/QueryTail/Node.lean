import QueryTail.Fault
import QueryTail.Text.Blank

/-!
# Nodes

A node has a name and keeps its query log in a file. A list of nodes grows one node at a time; it
never holds two nodes of one name, nor more than `maxNodes`.
-/

namespace QueryTail

/-- A node that is polled. -/
structure Node where
  id : String
  /-- The path of its query log. -/
  path : String
  deriving DecidableEq, Repr

/-- How many nodes there may be at most. -/
def maxNodes : Nat := 64

namespace Node

/-- A text split at its first equals sign. -/
def splitAtEquals (text : List Char) : Option (List Char × List Char) :=
  match text.dropWhile (· != '=') with
  | [] => none
  | _ :: rest => some (text.takeWhile (· != '='), rest)

/-- The node that a text such as `ns1=/var/log/ns1.jsonl` describes. Blanks around the name and
around the path do not count. -/
def ofSpec (spec : String) : Except SettingsFault Node :=
  match splitAtEquals spec.toList with
  | none => .error (.invalidNode spec "expected ID=PATH")
  | some (id, path) =>
    let id := Text.trim id
    let path := Text.trim path
    if id.isEmpty then .error (.invalidNode spec "node id is empty")
    else if path.isEmpty then .error (.invalidNode spec "node path is empty")
    else .ok ⟨String.ofList id, String.ofList path⟩

/-- A list of nodes with one more at its end. A name that is taken is refused, and so is a node
for which there is no more room. -/
def addTo (nodes : List Node) (node : Node) : Except SettingsFault (List Node) :=
  if nodes.any fun held => held.id == node.id then
    .error (.invalidNode node.id "duplicate node id")
  else if maxNodes ≤ nodes.length then
    .error (.outOfRange "nodes" (toString (nodes.length + 1)) s!"at most {maxNodes} nodes")
  else .ok (nodes ++ [node])

end Node

end QueryTail
