import QueryTail.Files.Actions
import QueryTail.Filter.Codec
import QueryTail.Limits
import QueryTail.Text.Utf8
import QueryTail.Window.Basic

/-!
# Preferences

What outlives a run: the capacity of the window, how nodes are polled and which, and the filter. The
window itself is not kept; it is filled again from the logs.

Preferences are saved in two steps, so that the file is never seen half written: the text goes to a
temporary file next to it, which then takes the file's place. Whatever is wrong with a saved file,
loading it gives no preferences rather than a fault.
-/

namespace QueryTail

/-- The choices that are saved between runs. -/
structure Preferences where
  /-- The version of the format. -/
  version : UInt32
  capacity : UInt64
  policy : CapacityPolicy
  /-- How many entries are asked of a node at a time. -/
  pageSize : UInt64
  /-- The pause between two rounds of polling, in milliseconds. -/
  interval : UInt64
  /-- The nodes to poll; none named means all. -/
  selected : List String
  filter : SavedFilter
  deriving DecidableEq

namespace Preferences

/-- The version of the format that is written and accepted. -/
def currentVersion : UInt32 := 1

/-- The name of the file that preferences are saved in. -/
def fileName : String := "session.json"

/-! ### The text of preferences -/

/-- The object of some preferences. -/
def toJson (preferences : Preferences) : Json :=
  .object
    [ ("version", .natural preferences.version.toNat),
      ("capacity", .natural preferences.capacity.toNat),
      ("capacity_policy", .string preferences.policy.label),
      ("page_size", .natural preferences.pageSize.toNat),
      ("poll_interval_ms", .natural preferences.interval.toNat),
      ("selected_nodes", .array (preferences.selected.map .string)),
      ("filter", preferences.filter.toJson) ]

/-- The text that preferences are saved as. -/
def text (preferences : Preferences) : String :=
  preferences.toJson.pretty

/-- Preferences of which some fields are not read yet. -/
structure Draft where
  version : Option UInt32
  capacity : Option UInt64
  policy : CapacityPolicy
  pageSize : UInt64
  interval : UInt64
  selected : List String
  filter : SavedFilter

/-- What is assumed of missing fields. There is no assumption about the version and the capacity. -/
def Draft.start : Draft :=
  ⟨none, none, .reset, Limits.pageSize.standard.toUInt64, Limits.interval.standard.toUInt64, [],
    .none⟩

/-- The preferences of a draft that has a version and a capacity. -/
def Draft.finish (draft : Draft) : Option Preferences := do
  some
    { version := ← draft.version
      capacity := ← draft.capacity
      policy := draft.policy
      pageSize := draft.pageSize
      interval := draft.interval
      selected := draft.selected
      filter := draft.filter }

/-- Read a policy: its word, or an object whose only member has the word for its name and no
value. -/
def readPolicy : List Char → Option (CapacityPolicy × List Char)
  | '"' :: rest => do
    let (label, rest) ← Json.readString rest
    some (← CapacityPolicy.ofLabel? label, rest)
  | '{' :: rest => do
    let (label, rest) ← Json.readText (Json.skipSpace rest)
    let policy ← CapacityPolicy.ofLabel? label
    let rest ← Text.readChar ':' (Json.skipSpace rest)
    let rest ← Json.readWord "null".toList (Json.skipSpace rest)
    let rest ← Text.readChar '}' (Json.skipSpace rest)
    some (policy, rest)
  | _ => none

/-- The fields of preferences. -/
def fields (rounds : Nat) : List (Json.RecordField Draft) :=
  [ ⟨"version", fun draft text =>
      (Json.readWord32 text).map fun (value, rest) => ({ draft with version := some value }, rest)⟩,
    ⟨"capacity", fun draft text =>
      (Json.readWord64 text).map fun (value, rest) =>
        ({ draft with capacity := some value }, rest)⟩,
    ⟨"capacity_policy", fun draft text =>
      (readPolicy text).map fun (policy, rest) => ({ draft with policy }, rest)⟩,
    ⟨"page_size", fun draft text =>
      (Json.readWord64 text).map fun (pageSize, rest) => ({ draft with pageSize }, rest)⟩,
    ⟨"poll_interval_ms", fun draft text =>
      (Json.readWord64 text).map fun (interval, rest) => ({ draft with interval }, rest)⟩,
    ⟨"selected_nodes", fun draft text =>
      (Json.readTexts rounds text).map fun (selected, rest) => ({ draft with selected }, rest)⟩,
    ⟨"filter", fun draft text =>
      (SavedFilter.read rounds text).map fun (filter, rest) => ({ draft with filter }, rest)⟩ ]

/-- The preferences that a JSON text denotes, of any version. -/
def decode? (text : String) : Option Preferences :=
  (Json.readWhole (fun rounds => Json.readRecord (fields rounds) Draft.start rounds) text).bind
    Draft.finish

/-! ### Saving and loading -/

/-- Where preferences are written before they take the place of the saved file. -/
def temporaryPath (path : String) : String :=
  FilePath.withExtension path "json.tmp"

/-- The directory of the saved file cannot be made. -/
def directoryFault (path : String) (cause : FileCause) : Fault :=
  .file path "create session directory" cause

/-- The temporary file cannot be written. -/
def writingFault (path : String) (cause : FileCause) : Fault :=
  .file path "write session temp file" cause

/-- The temporary file cannot take the place of the saved file. -/
def replacingFault (path : String) (cause : FileCause) : Fault :=
  .file path "finalise session file" cause

section

variable {m : Type → Type} [Monad m]

/-- Make the directory of a file, if the file's path has one. -/
def makeRoom (files : FileActions m) (path : String) : m (Except Fault Unit) := do
  match FilePath.parent? path with
  | none => return .ok ()
  | some parent => return (← files.createDirectories parent).mapError (directoryFault parent)

/-- Put a text into a file by way of another file, which is removed if that fails. -/
def replaceFile (files : FileActions m) (temporary path : String) (content : List UInt8) :
    m (Except Fault Unit) := do
  match ← files.write temporary content with
  | .error cause => return .error (writingFault temporary cause)
  | .ok () =>
    match ← files.rename temporary path with
    | .ok () => return .ok ()
    | .error cause =>
      let _ ← files.remove temporary
      return .error (replacingFault path cause)

/-- Save preferences in files of some kind. Directories that are missing are made. -/
def saveTo (preferences : Preferences) (files : FileActions m) (path : String) :
    m (Except Fault Unit) := do
  match ← makeRoom files path with
  | .error fault => return .error fault
  | .ok () =>
    replaceFile files (temporaryPath path) path (Text.utf8 preferences.text.toList)

end

/-- Save preferences in a tree of files. Gives the files as they are afterwards, whether or not that
succeeded. -/
def save (preferences : Preferences) (files : FileTree) (path : String) :
    FileTree × Except Fault Unit :=
  (preferences.saveTo FileTree.actions path files).swap

/-- What came of reading saved preferences. -/
inductive Found where
  | unreadable (cause : FileCause)
  | malformed
  | otherVersion (version : UInt32)
  | usable (preferences : Preferences)

/-- The preferences in the content of a file. -/
def ofContent (content : List UInt8) : Found :=
  match Text.ofUtf8? content with
  | none => .unreadable .notText
  | some text =>
    match decode? (String.ofList text) with
    | none => .malformed
    | some preferences =>
      if preferences.version = currentVersion then .usable preferences
      else .otherVersion preferences.version

/-- Look for preferences in a file. -/
def lookUp (files : FileTree) (path : String) : Found :=
  match files.read path with
  | .error cause => .unreadable cause
  | .ok content => ofContent content

/-- The preferences that can be used. -/
def Found.usable? : Found → Option Preferences
  | .usable preferences => some preferences
  | _ => none

/-- The preferences saved in a file; none if there is no such file, if it cannot be read, or if it
is of another version. -/
def load (files : FileTree) (path : String) : Option Preferences :=
  (lookUp files path).usable?

end Preferences

end QueryTail
