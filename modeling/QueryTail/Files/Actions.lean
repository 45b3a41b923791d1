import QueryTail.Files.Tree

/-!
# File operations as actions

What the program does with files is written down once, for files of any kind: `FileActions` is what
it asks of them. The files of the user's system carry the actions out, and so does a tree of files.
-/

namespace QueryTail

/-- What can be done with files of some kind. -/
structure FileActions (m : Type → Type) where
  /-- Make a directory and whatever directories above it are missing. -/
  createDirectories : String → m (Except FileCause Unit)
  /-- Write a file, in place of the one that is there. -/
  write : String → List UInt8 → m (Except FileCause Unit)
  /-- Give a file another path; a file that is there already is replaced. -/
  rename : String → String → m (Except FileCause Unit)
  /-- Remove a file. -/
  remove : String → m (Except FileCause Unit)

namespace FileTree

/-- An operation on the tree as an action, which leaves the tree as it is if the operation fails. -/
def perform (operation : FileTree → Except FileCause FileTree) :
    StateM FileTree (Except FileCause Unit) := fun files =>
  match operation files with
  | .ok changed => (.ok (), changed)
  | .error cause => (.error cause, files)

/-- What can be done with a tree of files. -/
def actions : FileActions (StateM FileTree) where
  createDirectories path := fun files => (files.createDirectories path).swap
  write path content := perform (·.write path content)
  rename source target := perform (·.renameFile source target)
  remove path := perform (·.removeFile path)

end FileTree

end QueryTail
