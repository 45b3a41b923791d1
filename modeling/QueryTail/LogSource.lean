import QueryTail.Entry.Page
import QueryTail.Files.Tail
import QueryTail.Filter
import QueryTail.Node

/-!
# The source of log entries

Where the pages of the nodes come from: each node's query log, read from its end.
-/

namespace QueryTail

/-- The nodes whose logs can be read, and how much of a log is read at a time. -/
structure LogSource where
  nodes : List Node
  /-- How many bytes from the end of a log are read. -/
  readBound : UInt64
  /-- How the program that reads is built. -/
  profile : BuildProfile

namespace LogSource

/-- How many bytes from the end of a log are read when nothing else is said. -/
def defaultReadBound : UInt64 := 4194304

/-- The source of some nodes' entries, in a program that is built for release. -/
def ofNodes (nodes : List Node) : LogSource :=
  ⟨nodes, defaultReadBound, .release⟩

/-- The source with another bound on what is read; a bound of nothing counts as one byte. -/
def withReadBound (source : LogSource) (bound : UInt64) : LogSource :=
  { source with readBound := max bound 1 }

/-- The path of a node's log. If two nodes have one name, the last counts. -/
def path? (source : LogSource) (id : String) : Option String :=
  (source.nodes.reverse.find? fun node => node.id == id).map Node.path

/-- The names of the nodes in ascending order, each once. -/
def nodeIds (source : LogSource) : List String :=
  sortedDistinct (source.nodes.map Node.id)

/-- The page of a node, given what reading the tail of its log gave. -/
def pageOf (path id : String) (size : Nat) (tail : Except FileCause (List Char)) :
    Except SourceFault Page :=
  match tail with
  | .error cause => .error (.unreadable path cause)
  | .ok text => .ok (.ofText id size text)

/-- The page of most recent entries in a node's log, newest first; nothing if the thread that
fetches it ends before it has a result. -/
def fetchPage (source : LogSource) (files : FileTree) (id : String) (size : Nat) :
    Option (Except SourceFault Page) :=
  match source.path? id with
  | none => some (.error (.unknownNode id))
  | some path => (files.readTail source.profile path source.readBound).map (pageOf path id size)

/-- The most recent entries in a node's log, newest first. -/
def fetch (source : LogSource) (files : FileTree) (id : String) (size : Nat) :
    Option (Except SourceFault (List Entry)) :=
  (source.fetchPage files id size).map (Except.map Page.entries)

end LogSource

end QueryTail
