/-!
# Faults

Everything that can go wrong, by cause, with the text that the user reads. A fault may rest on
another: `chain` lists the texts from the outermost fault to the innermost cause.
-/

namespace QueryTail

/-- Why the operating system refused a file operation. -/
inductive FileCause where
  | notFound
  | alreadyExists
  | notADirectory
  | isADirectory
  | busy
  | nameTooLong
  /-- A name holds the character U+0000, which no file name can. -/
  | nulInName
  /-- The file's bytes are not valid UTF-8. -/
  | notText
  | other (text : String)
  deriving DecidableEq, Repr

/-- The text of a cause. -/
def FileCause.message : FileCause → String
  | .notFound => "No such file or directory (os error 2)"
  | .alreadyExists => "File exists (os error 17)"
  | .notADirectory => "Not a directory (os error 20)"
  | .isADirectory => "Is a directory (os error 21)"
  | .busy => "Device or resource busy (os error 16)"
  | .nameTooLong => "File name too long (os error 36)"
  | .nulInName => "file name contained an unexpected NUL byte"
  | .notText => "stream did not contain valid UTF-8"
  | .other text => text

/-- The text that stands for what exactly is wrong inside a pattern or a settings file. -/
def unspecified : String := "<detail>"

/-- A fetch from a node failed. -/
inductive SourceFault where
  | unknownNode (node : String)
  | unreadable (path : String) (cause : FileCause)
  | timeout (node : String) (millis : Nat)
  /-- The worker that fetched ended without an answer. -/
  | disconnected (node : String)
  /-- An earlier fetch from the node has not returned yet. -/
  | stillRunning (node : String)
  deriving DecidableEq, Repr

/-- A filter could not be set. -/
inductive FilterFault where
  | invalidPattern (pattern : String)
  | patternTooLong (length : Nat)
  deriving DecidableEq, Repr

/-- An export failed, in the file, in the CSV writer or in the JSON writer. -/
inductive ExportFault where
  | file (path : String) (cause : FileCause)
  | csv (path : String) (cause : FileCause)
  | json (path : String) (cause : FileCause)
  deriving DecidableEq, Repr

/-- The settings cannot be used. -/
inductive SettingsFault where
  | malformed (path : String)
  | outOfRange (field value expected : String)
  | invalidNode (spec reason : String)
  | noNodes
  | unreadable (path : String) (cause : FileCause)
  deriving DecidableEq, Repr

/-- Any fault of the program. -/
inductive Fault where
  | source (fault : SourceFault)
  | filter (fault : FilterFault)
  | export (fault : ExportFault)
  | settings (fault : SettingsFault)
  | file (path operation : String) (cause : FileCause)
  deriving DecidableEq, Repr

/-- The greatest length of a pattern in bytes. -/
def maxPatternBytes : Nat := 4096

namespace SourceFault

/-- The text of a failed fetch. -/
def message : SourceFault → String
  | .unknownNode node => s!"Node '{node}' is not configured"
  | .unreadable path cause => s!"Cannot read node log '{path}': {cause.message}"
  | .timeout node millis => s!"Fetch from node '{node}' timed out after {millis} ms"
  | .disconnected node => s!"Fetch worker for node '{node}' exited without a result"
  | .stillRunning node =>
    s!"Previous fetch from node '{node}' is still running; skipped this tick"

/-- The texts of the fault and of what it rests on. -/
def chain (fault : SourceFault) : List String :=
  fault.message :: match fault with
    | .unreadable _ cause => [cause.message]
    | _ => []

end SourceFault

namespace FilterFault

/-- The text of a filter that could not be set. -/
def message : FilterFault → String
  | .invalidPattern pattern => s!"Invalid filter regex '{pattern}': {unspecified}"
  | .patternTooLong length =>
    s!"Filter regex is {length} chars, exceeds maximum of {maxPatternBytes}"

/-- The texts of the fault and of what it rests on. -/
def chain (fault : FilterFault) : List String :=
  fault.message :: match fault with
    | .invalidPattern _ => [unspecified]
    | .patternTooLong _ => []

end FilterFault

namespace ExportFault

/-- The text of a failed export. -/
def message : ExportFault → String
  | .file path cause => s!"Export I/O error '{path}': {cause.message}"
  | .csv path cause => s!"CSV export error '{path}': {cause.message}"
  | .json path cause => s!"JSON export error '{path}': {cause.message}"

/-- What the fault rests on. -/
def cause : ExportFault → FileCause
  | .file _ cause => cause
  | .csv _ cause => cause
  | .json _ cause => cause

/-- The texts of the fault and of what it rests on. -/
def chain (fault : ExportFault) : List String :=
  [fault.message, fault.cause.message]

end ExportFault

namespace SettingsFault

/-- The text of settings that cannot be used. -/
def message : SettingsFault → String
  | .malformed path => s!"Config parse error '{path}': {unspecified}"
  | .outOfRange field value expected =>
    s!"Config '{field}' = '{value}' is out of range. Expected: {expected}"
  | .invalidNode spec reason => s!"Invalid node '{spec}': {reason}"
  | .noNodes =>
    "No nodes configured. Pass --node ID=PATH or add a [[nodes]] table to config.toml"
  | .unreadable path cause => s!"Config I/O error '{path}': {cause.message}"

/-- The texts of the fault and of what it rests on. -/
def chain (fault : SettingsFault) : List String :=
  fault.message :: match fault with
    | .malformed _ => [unspecified]
    | .unreadable _ cause => [cause.message]
    | _ => []

end SettingsFault

namespace Fault

/-- The text of a fault. -/
def message : Fault → String
  | .source fault => s!"Log source error: {fault.message}"
  | .filter fault => s!"Filter error: {fault.message}"
  | .export fault => s!"Export error: {fault.message}"
  | .settings fault => s!"Configuration error: {fault.message}"
  | .file path operation cause => s!"I/O error during {operation} on '{path}': {cause.message}"

/-- The texts of a fault and of all that it rests on, outermost first. -/
def chain (fault : Fault) : List String :=
  fault.message :: match fault with
    | .source fault => fault.chain
    | .filter fault => fault.chain
    | .export fault => fault.chain
    | .settings fault => fault.chain
    | .file _ _ cause => [cause.message]

end Fault

/-! ### Attempts that may fail -/

section Attempts

variable {Fault Value Result : Type} {attempt : Except Fault Value} {result : Result}

/-- An outcome that succeeds after `map` succeeded before it. -/
theorem exists_of_map_eq_ok {use : Value → Result} (succeeded : attempt.map use = .ok result) :
    ∃ value, attempt = .ok value ∧ use value = result := by
  cases attempt with
  | error fault => cases succeeded
  | ok value => exact ⟨value, rfl, Except.ok.inj succeeded⟩

/-- A chain of two attempts succeeds only when both do. -/
theorem exists_of_bind_eq_ok {use : Value → Except Fault Result}
    (succeeded : attempt.bind use = .ok result) :
    ∃ value, attempt = .ok value ∧ use value = .ok result := by
  cases attempt with
  | error fault => cases succeeded
  | ok value => exact ⟨value, rfl, succeeded⟩

/-- An attempt that gives no value fails with some fault or succeeds. -/
theorem exists_eq_error_iff {outcome : Except Fault Unit} :
    (∃ fault, outcome = .error fault) ↔ outcome ≠ .ok () := by
  cases outcome with
  | error fault => exact ⟨nofun, fun _ => ⟨fault, rfl⟩⟩
  | ok => exact ⟨nofun, fun failed => absurd rfl failed⟩

end Attempts

end QueryTail
