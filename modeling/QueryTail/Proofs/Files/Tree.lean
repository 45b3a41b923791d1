import QueryTail.Files.Tree

/-!
# Where paths lead after a change

A path is walked through directories only. So a change that leaves every directory in its place, as
writing and renaming files do, does not change where a path leads that could be walked before
(`KeepsDirectories.locate`). This is why a file that was written under one path and renamed to
another holds under the new path what was written (`read_of_replaced`), whatever was at either path
before and however the two paths are related.
-/

namespace QueryTail.FileTree

variable {tree filled after : FileTree} {location goal : Location} {path temporary : String}
  {content : List UInt8}

/-- The directories of a tree, and the directory in which relative paths start, are there in another
tree too. -/
structure KeepsDirectories (tree after : FileTree) : Prop where
  workingDirectory : after.workingDirectory = tree.workingDirectory
  directory : ∀ location, tree.objects location = some .directory →
    after.objects location = some .directory

namespace KeepsDirectories

/-- Directories that survive two changes survive both. -/
theorem trans {last : FileTree} (first : KeepsDirectories tree after)
    (second : KeepsDirectories after last) : KeepsDirectories tree last where
  workingDirectory := second.workingDirectory.trans first.workingDirectory
  directory location held := second.directory location (first.directory location held)

/-- A change at a location where there is no directory. -/
theorem set (noDirectory : tree.objects location ≠ some .directory)
    (object : Option FileObject) : KeepsDirectories tree (tree.set location object) where
  workingDirectory := rfl
  directory other held := by
    have different : other ≠ location := fun same => noDirectory (same ▸ held)
    rw [objects_set_of_ne tree object different, held]

/-- A change that puts no directory there is one that leaves no directory out of the tree before. -/
theorem unset {object : Option FileObject} (noDirectory : object ≠ some .directory) :
    KeepsDirectories (tree.set location object) tree where
  workingDirectory := rfl
  directory other held := by
    by_cases same : other = location
    · rw [same, objects_set_self] at held
      exact absurd held noDirectory
    · rwa [objects_set_of_ne tree object same] at held

/-- A file that goes from one location to another where there is no directory. -/
theorem move {origin : Location} (isFile : tree.objects origin = some (.file content))
    (noDirectory : tree.objects goal ≠ some .directory) :
    KeepsDirectories tree ((tree.set origin none).set goal (some (.file content))) := by
  have noDirectoryHere : tree.objects origin ≠ some .directory := isFile ▸ nofun
  have removal := KeepsDirectories.set noDirectoryHere none
  refine removal.trans (.set ?_ _)
  by_cases same : goal = origin
  · rw [same, objects_set_self]
    exact nofun
  · rwa [objects_set_of_ne tree none same]

/-- Every name leads to where it led. -/
theorem enter (keeps : KeepsDirectories tree after) {name : String}
    (leads : tree.enter location name = .ok goal) : after.enter location name = .ok goal := by
  unfold FileTree.enter at leads ⊢
  cases held : tree.objects location with
  | none =>
    rw [held] at leads
    cases leads
  | some object =>
    rw [held] at leads
    cases object with
    | file content => cases leads
    | directory =>
      rw [keeps.directory location held]
      exact leads

/-- A walk through directories leads to the same location as long as they survive. -/
theorem foldlM_enter (keeps : KeepsDirectories tree after) {names : List String}
    (leads : names.foldlM tree.enter location = .ok goal) :
    names.foldlM after.enter location = .ok goal := by
  induction names generalizing location with
  | nil => exact leads
  | cons name names ih =>
    obtain ⟨next, first, others⟩ := exists_of_bind_eq_ok leads
    rw [List.foldlM_cons, keeps.enter first]
    exact ih others

/-- Every path leads to where it led. -/
theorem locate (keeps : KeepsDirectories tree after) (leads : tree.locate path = .ok location) :
    after.locate path = .ok location := by
  unfold FileTree.locate at leads ⊢
  split at leads
  · cases leads
  · split at leads
    · cases leads
    · split at leads
      · cases leads
      · rw [if_neg ‹_›, if_neg ‹_›, if_neg ‹_›, keeps.workingDirectory]
        exact keeps.foldlM_enter leads

end KeepsDirectories

/-! ### Reading, writing and renaming -/

/-- A file can be read where its path leads, unless the path asks for a directory. -/
theorem read_of_objects (leads : tree.locate path = .ok location)
    (held : tree.objects location = some (.file content)) (noSlash : endsWithSlash path = false) :
    tree.read path = .ok content := by
  have found : tree.find path = .ok (.file content) := by
    rw [find, leads]
    simp only [bind, Except.bind, held, noSlash, Bool.false_eq_true, if_false]
  rw [read, found]
  rfl

/-- A location that can be written to is one that the path leads to, and is no directory. -/
theorem exists_of_locateWritable {held : List UInt8}
    (writable : tree.locateWritable path = .ok (location, held)) :
    tree.locate path = .ok location ∧ tree.objects location ≠ some .directory := by
  obtain ⟨there, leads, writable⟩ := exists_of_bind_eq_ok writable
  split at writable
  · cases writable
  · next isFile =>
    split at writable
    · cases writable
    · obtain ⟨rfl, -⟩ := Prod.mk.inj (Except.ok.inj writable)
      exact ⟨leads, isFile ▸ nofun⟩
  · next nothing =>
    split at writable
    · cases writable
    · obtain ⟨rfl, -⟩ := Prod.mk.inj (Except.ok.inj writable)
      exact ⟨leads, nothing ▸ nofun⟩

/-- Where a file was written there was no directory, and now there is the file. -/
theorem exists_of_write (written : tree.write path content = .ok filled) :
    ∃ location, tree.locate path = .ok location ∧ tree.objects location ≠ some .directory ∧
      filled = tree.set location (some (.file content)) := by
  obtain ⟨⟨location, held⟩, writable, same⟩ := exists_of_bind_eq_ok written
  obtain ⟨leads, noDirectory⟩ := exists_of_locateWritable writable
  exact ⟨location, leads, noDirectory, (Except.ok.inj same).symm⟩

/-- The same holds of a file that something was written at the end of. -/
theorem exists_of_append {more : List UInt8} (appended : tree.append path more = .ok after) :
    ∃ location held, tree.locate path = .ok location ∧ tree.objects location ≠ some .directory ∧
      after = tree.set location (some (.file (held ++ more))) := by
  obtain ⟨⟨location, held⟩, writable, same⟩ := exists_of_bind_eq_ok appended
  obtain ⟨leads, noDirectory⟩ := exists_of_locateWritable writable
  exact ⟨location, held, leads, noDirectory, (Except.ok.inj same).symm⟩

/-- A file that was renamed is no longer where its old path leads but where its new path leads,
which asks for no directory and leads to none. -/
theorem exists_of_renameFile {source target : String}
    (renamed : tree.renameFile source target = .ok after) :
    ∃ origin goal content, tree.locate source = .ok origin ∧ tree.locate target = .ok goal ∧
      tree.objects origin = some (.file content) ∧ tree.objects goal ≠ some .directory ∧
      endsWithSlash target = false ∧
      after = (tree.set origin none).set goal (some (.file content)) := by
  obtain ⟨origin, fromThere, renamed⟩ := exists_of_bind_eq_ok renamed
  obtain ⟨goal, toThere, renamed⟩ := exists_of_bind_eq_ok renamed
  split at renamed
  · cases renamed
  · split at renamed
    · cases renamed
    · cases renamed
    · next content held =>
      split at renamed
      · cases renamed
      · next noSlash =>
        split at renamed
        · cases renamed
        · next noDirectory =>
          exact ⟨origin, goal, content, fromThere, toThere, held, noDirectory,
            Bool.not_eq_true _ ▸ noSlash, (Except.ok.inj renamed).symm⟩

/-- A file is renamed if neither path asks for what it cannot have. -/
theorem renameFile_eq_ok {source target : String} {origin : Location}
    (fromThere : tree.locate source = .ok origin) (toThere : tree.locate target = .ok goal)
    (isFile : tree.objects origin = some (.file content)) (noDots : endsWithDots target = false)
    (noSlash : endsWithSlash target = false) (noDirectory : tree.objects goal ≠ some .directory) :
    tree.renameFile source target =
      .ok ((tree.set origin none).set goal (some (.file content))) := by
  rw [renameFile, fromThere, toThere]
  simp only [bind, Except.bind, noDots, noSlash, isFile, Bool.false_eq_true, if_false]

/-- A file whose path does not end in a slash can be removed. -/
theorem removeFile_eq_ok (leads : tree.locate path = .ok location)
    (isFile : tree.objects location = some (.file content)) (noSlash : endsWithSlash path = false) :
    tree.removeFile path = .ok (tree.set location none) := by
  simp only [removeFile, find, leads, bind, Except.bind, isFile, noSlash, Bool.false_eq_true,
    if_false]

/-- Only a path that does not end in a slash can be written to. -/
theorem endsWithSlash_of_write (written : tree.write path content = .ok filled) :
    endsWithSlash path = false := by
  obtain ⟨⟨location, held⟩, writable, -⟩ := exists_of_bind_eq_ok written
  obtain ⟨there, -, writable⟩ := exists_of_bind_eq_ok writable
  split at writable
  · cases writable
  · split at writable
    · cases writable
    · next noSlash => exact Bool.not_eq_true _ ▸ noSlash
  · split at writable
    · cases writable
    · next noSlash => exact Bool.not_eq_true _ ▸ noSlash

/-- Of two changes at one location the second one counts. -/
theorem set_set (tree : FileTree) (location : Location) (first second : Option FileObject) :
    (tree.set location first).set location second = tree.set location second := by
  refine congrArg (FileTree.mk · tree.workingDirectory) (funext fun other => ?_)
  by_cases same : other = location
  · rw [if_pos same, if_pos same]
  · rw [if_neg same, if_neg same, objects_set_of_ne tree first same]

/-- What was written under one path is read under the path that it was renamed to. -/
theorem read_of_replaced (written : tree.write temporary content = .ok filled)
    (renamed : filled.renameFile temporary path = .ok after) : after.read path = .ok content := by
  obtain ⟨location, leads, noDirectory, rfl⟩ := exists_of_write written
  obtain ⟨origin, goal, moved, fromThere, toThere, held, noDirectoryThere, noSlash, rfl⟩ :=
    exists_of_renameFile renamed
  -- The temporary path leads to the same place before the file is written and after.
  obtain rfl : location = origin :=
    Except.ok.inj (((KeepsDirectories.set noDirectory _).locate leads).symm.trans fromThere)
  rw [objects_set_self] at held
  obtain rfl := FileObject.file.inj (Option.some.inj held)
  have keeps := KeepsDirectories.move (objects_set_self tree location _) noDirectoryThere
  exact read_of_objects (keeps.locate toThere) (objects_set_self ..) noSlash

end QueryTail.FileTree
