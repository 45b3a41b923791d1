/-!
# File paths

Paths as text: names divided by slashes. Nothing here looks at files. The functions keep the
spelling of a path as far as they can, because paths are shown in messages as they were given: a
parent is cut out of the text and not built anew.

A path may be anchored, either at the root by a leading slash or at the current directory by a
leading dot. After the anchor, empty names and single dots mean nothing.
-/

namespace QueryTail.FilePath

/-- The parts of a text between separators; there is always at least one. -/
def partsBetween (separator : Char) : List Char → List (List Char)
  | [] => [[]]
  | c :: rest =>
    if c = separator then [] :: partsBetween separator rest
    else match partsBetween separator rest with
      | [] => [[c]]
      | first :: others => (c :: first) :: others

/-- Parts as one text again, with a separator between each two. -/
def joinParts (separator : Char) : List (List Char) → List Char
  | [] => []
  | [part] => part
  | part :: rest => part ++ separator :: joinParts separator rest

/-- Splitting a text and joining the parts gives the text. -/
theorem joinParts_partsBetween (separator : Char) (text : List Char) :
    joinParts separator (partsBetween separator text) = text := by
  induction text with
  | nil => rfl
  | cons c rest ih =>
    have notEmpty : partsBetween separator rest ≠ [] := by
      cases rest with
      | nil => simp [partsBetween]
      | cons d rest =>
        simp only [partsBetween]
        split
        · simp
        · split <;> simp
    unfold partsBetween
    split
    · rename_i same
      cases parts : partsBetween separator rest with
      | nil => exact absurd parts notEmpty
      | cons first others => simp [joinParts, ← parts, ih, same]
    · cases parts : partsBetween separator rest with
      | nil => exact absurd parts notEmpty
      | cons first others =>
        rw [parts] at ih
        cases others <;> simp_all [joinParts]

/-- A part that names something. -/
def isName (part : List Char) : Bool :=
  part != [] && part != ['.']

/-- The anchor of a path, and the rest of its text. -/
def splitAnchor : List Char → List Char × List Char
  | '/' :: rest => (['/'], rest)
  | ['.'] => (['.'], [])
  | '.' :: '/' :: rest => (['.'], '/' :: rest)
  | path => ([], path)

/-- A path taken apart at its last name. -/
structure Split where
  /-- The anchor. -/
  anchor : List Char
  /-- The parts before the last name, last first. -/
  before : List (List Char)
  /-- The last name. -/
  name : List Char

/-- Take a path apart at its last name, if it has one. What follows the name is dropped. -/
def split? (path : String) : Option Split :=
  let (anchor, body) := splitAnchor path.toList
  match (partsBetween '/' body).reverse.dropWhile fun part => !isName part with
  | [] => none
  | name :: before => some ⟨anchor, before, name⟩

/-- The path without its last name. The root and the empty path have no parent; the parent of a
bare name is the empty path. -/
def parent? (path : String) : Option String :=
  match split? path with
  | some ⟨anchor, before, _⟩ =>
    let kept := before.dropWhile fun part => !isName part
    some (String.ofList (anchor ++ joinParts '/' kept.reverse))
  | none => if (splitAnchor path.toList).1 = ['.'] then some "" else none

/-- The name of the file that a path leads to; a path that ends by going up has none. -/
def fileName? (path : String) : Option (List Char) :=
  match split? path with
  | some ⟨_, _, name⟩ => if name = ['.', '.'] then none else some name
  | none => none

/-- A file name cut at its last dot, into what stands before and after it. A dot at the very start
does not count. -/
def splitExtension (name : List Char) : List Char × Option (List Char) :=
  match (partsBetween '.' name).reverse with
  | last :: next :: others =>
    let stem := joinParts '.' (next :: others).reverse
    if stem = [] then (name, none) else (stem, some last)
  | _ => (name, none)

/-- The extension of the file that a path leads to. -/
def extension? (path : String) : Option (List Char) :=
  (fileName? path).bind fun name => (splitExtension name).2

/-- The text of a path without its extension, but with the dot in front of it. What follows the
file name is cut off in part only. -/
def withoutExtension (path : String) : String :=
  match extension? path with
  | none => path
  | some extension => String.ofList (path.toList.take (path.length - extension.length))

/-- The path with another extension, in place of the one it has if it has one. A path without a
file name stays as it is; so does what is left of a path to a name such as `..tar` when its
extension is gone, since it goes up. -/
def withExtension (path extension : String) : String :=
  let path := withoutExtension path
  match split? path with
  | none => path
  | some ⟨anchor, before, name⟩ =>
    if name = ['.', '.'] then path
    else
      let name := (splitExtension name).1 ++ '.' :: extension.toList
      String.ofList (anchor ++ joinParts '/' (before.reverse ++ [name]))

/-- The path starts at the root. -/
def isAbsolute (path : String) : Bool :=
  path.toList.head? == some '/'

/-- A path below a directory; an absolute path stands for itself. -/
def join (directory path : String) : String :=
  if isAbsolute path then path
  else if directory.isEmpty || directory.toList.getLast? == some '/' then directory ++ path
  else directory ++ "/" ++ path

/-- A path, its parent, the parent of that, and so on. -/
def ancestors (path : String) : List String :=
  climb path.length path
where
  /-- The first `count` parents of a path, after the path itself. -/
  climb : Nat → String → List String
    | 0, path => [path]
    | count + 1, path =>
      match parent? path with
      | none => [path]
      | some parent => path :: climb count parent

end QueryTail.FilePath
