import QueryTail.Toml.Document

/-!
# Settings as written

The fields of a settings file, each as it is given or absent. Values must be of the right kind but
are not checked any further. Names that mean nothing here are passed over. Wherever a table is
expected, an array may list the fields in the order in which they are declared.
-/

namespace QueryTail

/-- The table of one node, as written. -/
structure RawNode where
  id : Option String
  path : Option String
  deriving DecidableEq, Repr

/-- The table about the tail, as written. -/
structure RawTail where
  capacity : Option Nat
  policy : Option String
  pageSize : Option Nat
  interval : Option Nat
  fetchTimeout : Option Nat
  highlight : Option Nat
  deriving DecidableEq, Repr

/-- The table about logging, as written. -/
structure RawLogging where
  level : Option String
  file : Option String
  deriving DecidableEq, Repr

/-- A settings file, as written. -/
structure RawSettings where
  tail : RawTail
  nodes : List RawNode
  logging : RawLogging
  deriving DecidableEq, Repr

namespace Toml

/-- A field of a section: its name, and how its value is put into the section. -/
structure TableField (σ : Type) where
  name : String
  put : σ → Value → Option σ

/-- Put the values of a table into the fields of a section. -/
def readMembers {σ : Type} (members : Members) (held : σ) : List (TableField σ) → Option σ
  | [] => some held
  | field :: rest =>
    match members.get? field.name with
    | none => readMembers members held rest
    | some value => (field.put held value).bind fun held => readMembers members held rest

/-- Put the items of an array into the fields of a section, in order. Items for which there is no
field are passed over. -/
def readItemsInOrder {σ : Type} (held : σ) : List (TableField σ) → List Value → Option σ
  | field :: fields, value :: values =>
    (field.put held value).bind fun held => readItemsInOrder held fields values
  | _, _ => some held

/-- Read a section from a table or an array. A moment counts as a table without known names. -/
def readSection {σ : Type} (fields : List (TableField σ)) (start : σ) : Value → Option σ
  | .table members => readMembers members start fields
  | .array items => readItemsInOrder start fields items
  | .moment _ => some start
  | _ => none

/-- The natural number that a value is. -/
def Value.natural? : Value → Option Nat
  | .integer value => if 0 ≤ value then some value.toNat else none
  | _ => none

/-- The text that a value is. -/
def Value.text? : Value → Option String
  | .string text => some text
  | _ => none

end Toml

open Toml (Value TableField readSection)

namespace RawNode

/-- A table that says nothing. -/
def empty : RawNode := ⟨none, none⟩

/-- The fields of a node. -/
def fields : List (TableField RawNode) :=
  [ ⟨"id", fun node value => value.text?.map fun id => { node with id := some id }⟩,
    ⟨"path", fun node value => value.text?.map fun path => { node with path := some path }⟩ ]

/-- The nodes of a value, which must be an array. -/
def listOf? : Value → Option (List RawNode)
  | .array items => items.mapM (readSection fields empty)
  | _ => none

end RawNode

namespace RawTail

/-- A table that says nothing. -/
def empty : RawTail := ⟨none, none, none, none, none, none⟩

/-- The fields of the table about the tail. -/
def fields : List (TableField RawTail) :=
  [ ⟨"capacity", fun tail value => value.natural?.map fun n => { tail with capacity := some n }⟩,
    ⟨"capacity_policy", fun tail value => value.text?.map fun s => { tail with policy := some s }⟩,
    ⟨"page_size", fun tail value => value.natural?.map fun n => { tail with pageSize := some n }⟩,
    ⟨"poll_interval_ms", fun tail value =>
      value.natural?.map fun n => { tail with interval := some n }⟩,
    ⟨"fetch_timeout_ms", fun tail value =>
      value.natural?.map fun n => { tail with fetchTimeout := some n }⟩,
    ⟨"highlight_secs", fun tail value =>
      value.natural?.map fun n => { tail with highlight := some n }⟩ ]

end RawTail

namespace RawLogging

/-- A table that says nothing. -/
def empty : RawLogging := ⟨none, none⟩

/-- The fields of the table about logging. -/
def fields : List (TableField RawLogging) :=
  [ ⟨"level", fun logging value => value.text?.map fun s => { logging with level := some s }⟩,
    ⟨"file", fun logging value => value.text?.map fun s => { logging with file := some s }⟩ ]

end RawLogging

namespace RawSettings

/-- Settings that say nothing. -/
def empty : RawSettings := ⟨.empty, [], .empty⟩

/-- The sections of a settings file. -/
def fields : List (TableField RawSettings) :=
  [ ⟨"tail", fun raw value =>
      (readSection RawTail.fields .empty value).map fun tail => { raw with tail }⟩,
    ⟨"nodes", fun raw value => (RawNode.listOf? value).map fun nodes => { raw with nodes }⟩,
    ⟨"logging", fun raw value =>
      (readSection RawLogging.fields .empty value).map fun logging => { raw with logging }⟩ ]

/-- The settings that a TOML text denotes; none if the text is not TOML or a value is not of the
kind that its field takes. -/
def parse? (text : String) : Option RawSettings :=
  (Toml.parse? text).bind fun members => Toml.readMembers members empty fields

end RawSettings

end QueryTail
