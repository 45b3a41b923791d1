import QueryTail.Files.Path

/-!
# Where settings and preferences are kept

The directories of the program by the conventions of the desktop: a directory named by the
environment counts if it is absolute, and otherwise a place below the user's home directory is used.
-/

namespace QueryTail

/-- What the environment says about the user's directories. -/
structure UserEnvironment where
  /-- The home directory that the environment names. -/
  home : Option String
  /-- The home directory of the user's account. -/
  accountHome : Option String
  /-- The directory for configuration that the environment names. -/
  configHome : Option String
  /-- The directory for data that the environment names. -/
  dataHome : Option String

/-- The directories of the program. -/
structure Directories where
  config : String
  data : String
  deriving DecidableEq, Repr

namespace Directories

/-- The name of the program's own directory inside a directory for all programs. -/
def programName : String := "companion"

/-- The home directory: the one that the environment names, unless it is empty. -/
def homeOf (environment : UserEnvironment) : Option String :=
  match environment.home with
  | some home => if home.isEmpty then environment.accountHome else some home
  | none => environment.accountHome

/-- A directory that the environment names, if it is absolute, or else one below the home
directory. -/
def base (named : Option String) (home below : String) : String :=
  match named with
  | some path => if FilePath.isAbsolute path then path else FilePath.join home below
  | none => FilePath.join home below

/-- The directories of the program. Without a home directory the working directory serves. -/
def resolve (environment : UserEnvironment) : Directories :=
  match homeOf environment with
  | none => ⟨".", "."⟩
  | some home =>
    { config := FilePath.join (base environment.configHome home ".config") programName
      data := FilePath.join (base environment.dataHome home ".local/share") programName }

end Directories

end QueryTail
