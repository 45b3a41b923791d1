import QueryTail.Fault
import QueryTail.Files.Path

/-!
# Trees of files

The files and directories that a program can see, and what its file operations do to them. Every
operation either is carried out as a whole or fails with a cause and changes nothing; there are no
permissions, links or devices.

A path is walked name by name from the root or from the working directory. Every name but the last
must lead to a directory that exists, so `a/../b` needs `a`.
-/

namespace QueryTail

/-- Where an object is: the names that lead to it from the root, last name first. -/
abbrev Location := List String

/-- What can be at a location. -/
inductive FileObject where
  | file (content : List UInt8)
  | directory
  deriving DecidableEq

/-- The files and directories, and the directory in which relative paths start. -/
structure FileTree where
  objects : Location → Option FileObject
  workingDirectory : Location

namespace FileTree

/-- The tree that holds nothing but the root and a working directory at the given location. -/
def empty (workingDirectory : Location) : FileTree :=
  { objects := fun location =>
      if location.isSuffixOf workingDirectory then some .directory else none
    workingDirectory }

/-- The tree with the object at one location changed; `none` removes it. -/
def set (tree : FileTree) (location : Location) (object : Option FileObject) : FileTree :=
  { tree with objects := fun other => if other = location then object else tree.objects other }

@[simp] theorem objects_set_self (tree : FileTree) (location : Location)
    (object : Option FileObject) : (tree.set location object).objects location = object := by
  simp [set]

/-- Setting one location leaves every other location alone. -/
theorem objects_set_of_ne (tree : FileTree) {location other : Location}
    (object : Option FileObject) (different : other ≠ location) :
    (tree.set location object).objects other = tree.objects other := by
  simp [set, different]

/-! ### Walking a path -/

/-- The greatest length of a name in bytes. -/
def maxNameBytes : Nat := 255

/-- The greatest length of a path in bytes. -/
def maxPathBytes : Nat := 4095

/-- Go from a directory to what one of its names leads to. -/
def enter (tree : FileTree) (location : Location) (name : String) :
    Except FileCause Location :=
  match tree.objects location with
  | none => .error .notFound
  | some (.file _) => .error .notADirectory
  | some .directory =>
    if name = "." then .ok location
    else if name = ".." then .ok location.tail
    else if name.utf8ByteSize > maxNameBytes then .error .nameTooLong
    else .ok (name :: location)

/-- The names of a path, in order. -/
def namesOf (path : String) : List String :=
  ((FilePath.partsBetween '/' path.toList).filter fun part => part != []).map String.ofList

/-- The path ends with a slash, and so can only lead to a directory. -/
def endsWithSlash (path : String) : Bool :=
  path.toList.getLast? == some '/'

/-- The last name of a path goes nowhere down but stays or goes up. -/
def endsWithDots (path : String) : Bool :=
  match (namesOf path).getLast? with
  | none => true
  | some name => name == "." || name == ".."

/-- The location that a path leads to, whether or not something is there. -/
def locate (tree : FileTree) (path : String) : Except FileCause Location :=
  if path.toList.contains '\x00' then .error .nulInName
  else if path.isEmpty then .error .notFound
  else if path.utf8ByteSize > maxPathBytes then .error .nameTooLong
  else
    let start := if FilePath.isAbsolute path then [] else tree.workingDirectory
    (namesOf path).foldlM tree.enter start

/-! ### Looking -/

/-- What a path leads to. -/
def find (tree : FileTree) (path : String) : Except FileCause FileObject := do
  let location ← tree.locate path
  match tree.objects location with
  | none => .error .notFound
  | some (.file content) =>
    if endsWithSlash path then .error .notADirectory else .ok (.file content)
  | some .directory => .ok .directory

/-- The path leads to something. -/
def has (tree : FileTree) (path : String) : Bool :=
  (tree.find path).isOk

/-- The path leads to a directory. -/
def isDirectory (tree : FileTree) (path : String) : Bool :=
  match tree.find path with
  | .ok .directory => true
  | _ => false

/-- The path leads to a file. -/
def isFile (tree : FileTree) (path : String) : Bool :=
  match tree.find path with
  | .ok (.file _) => true
  | _ => false

/-- The content of a file. -/
def read (tree : FileTree) (path : String) : Except FileCause (List UInt8) := do
  match ← tree.find path with
  | .file content => .ok content
  | .directory => .error .isADirectory

/-! ### Changing -/

/-- Where a file can be written: at a location that holds a file or nothing. -/
def locateWritable (tree : FileTree) (path : String) :
    Except FileCause (Location × List UInt8) := do
  let location ← tree.locate path
  match tree.objects location with
  | some .directory => .error .isADirectory
  | some (.file content) =>
    if endsWithSlash path then .error .isADirectory else .ok (location, content)
  | none => if endsWithSlash path then .error .isADirectory else .ok (location, [])

/-- Write a file, in place of the one that is there. -/
def write (tree : FileTree) (path : String) (content : List UInt8) :
    Except FileCause FileTree := do
  let (location, _) ← tree.locateWritable path
  .ok (tree.set location (some (.file content)))

/-- Write at the end of a file; a file that is not there counts as empty. -/
def append (tree : FileTree) (path : String) (content : List UInt8) :
    Except FileCause FileTree := do
  let (location, held) ← tree.locateWritable path
  .ok (tree.set location (some (.file (held ++ content))))

/-- Make a directory in a directory that exists. -/
def createDirectory (tree : FileTree) (path : String) : Except FileCause FileTree := do
  let location ← tree.locate path
  match tree.objects location with
  | some _ => .error .alreadyExists
  | none => .ok (tree.set location (some .directory))

/-- Make a directory unless it exists. Gives the tree as it is afterwards, also on failure. -/
def createUnlessThere (tree : FileTree) (path : String) : FileTree × Except FileCause Unit :=
  match tree.createDirectory path with
  | .ok tree => (tree, .ok ())
  | .error cause => (tree, if tree.isDirectory path then .ok () else .error cause)

/-- Make the first directory of a list, for which the next ones are made where they are missing.
The empty path stands for the working directory. -/
def createChain (tree : FileTree) : List String → FileTree × Except FileCause Unit
  | [] => (tree, .ok ())
  | path :: parents =>
    if path.isEmpty then (tree, .ok ())
    else match tree.createUnlessThere path with
      | (tree, .error .notFound) =>
        match tree.createChain parents with
        | (tree, .ok ()) => tree.createUnlessThere path
        | failed => failed
      | outcome => outcome

/-- Make a directory and whatever directories above it are missing. Gives the tree as it is
afterwards: on failure, some of the directories may have been made. -/
def createDirectories (tree : FileTree) (path : String) : FileTree × Except FileCause Unit :=
  tree.createChain (FilePath.ancestors path)

/-- Give a file another path; a file that is there already is replaced. -/
def renameFile (tree : FileTree) (source target : String) : Except FileCause FileTree := do
  let origin ← tree.locate source
  let goal ← tree.locate target
  if endsWithDots target then .error .busy
  else match tree.objects origin with
    | none => .error .notFound
    | some .directory => .error .isADirectory
    | some (.file content) =>
      if endsWithSlash target then .error .notADirectory
      else match tree.objects goal with
        | some .directory => .error .isADirectory
        | _ => .ok ((tree.set origin none).set goal (some (.file content)))

/-- Remove a file. -/
def removeFile (tree : FileTree) (path : String) : Except FileCause FileTree := do
  let location ← tree.locate path
  match ← tree.find path with
  | .directory => .error .isADirectory
  | .file _ => .ok (tree.set location none)

end FileTree

end QueryTail
