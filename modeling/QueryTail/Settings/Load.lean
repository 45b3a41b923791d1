import QueryTail.Files.Tree
import QueryTail.Settings.Basic
import QueryTail.Text.Utf8

/-!
# Loading settings

Settings come from a file that need not be there. A file that cannot be read or understood gives the
default settings and a single warning.
-/

namespace QueryTail.Settings

/-- The name of the settings file. -/
def fileName : String := "config.toml"

/-- The warning about settings that are not used at all. -/
def faultWarning (fault : SettingsFault) : String :=
  s!"{fault.message}. Using defaults."

/-- The text of a settings file. -/
def textOf (content : List UInt8) : Except FileCause String :=
  match Text.ofUtf8? content with
  | some text => .ok (String.ofList text)
  | none => .error .notText

/-- The settings of a file, given what reading it gave, and the warnings about it. -/
def ofContent (path : String) (content : Except FileCause (List UInt8)) :
    Settings × List String :=
  match content.bind textOf with
  | .error cause => (standard, [faultWarning (.unreadable path cause)])
  | .ok text =>
    match RawSettings.parse? text with
    | none => (standard, [faultWarning (.malformed path)])
    | some raw => ofRaw raw

/-- The settings of a file, and the warnings about it. A file that is not there gives the default
settings without a warning. -/
def load (files : FileTree) (path : String) : Settings × List String :=
  if files.has path then ofContent path (files.read path) else (standard, [])

end QueryTail.Settings
