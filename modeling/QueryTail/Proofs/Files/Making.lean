import QueryTail.Proofs.Files.Walk

/-!
# Directories that are made on the way to a file

When the missing directories above a file are made, all that was there stays as it was, and what is
new is a directory to which an ancestor of the file leads (`made_createDirectories`). What could be
found under a path is still found there. The converse needs care: a path that goes up out of a
directory that was missing leads nowhere before and somewhere afterwards. Only then can something
be found under the path of the file that was not found there before (`Made.find_back`).
-/

namespace QueryTail.FileTree

open FilePath (steps)

variable {tree after : FileTree} {location base : Location} {path parent above : String}
  {names : List String} {object : FileObject}

/-! ### Making directories -/

/-- Directories were made, and nothing else has changed. A path among those given leads to each
directory that was made. -/
structure Made (paths : List String) (tree after : FileTree) : Prop where
  workingDirectory : after.workingDirectory = tree.workingDirectory
  wellFormed : tree.WellFormed → after.WellFormed
  objects : ∀ location, after.objects location = tree.objects location ∨
    tree.objects location = none ∧ after.objects location = some .directory ∧
      ∃ path ∈ paths, after.locate path = .ok location

namespace Made

variable {paths more : List String}

/-- Making nothing leaves the tree as it is. -/
theorem refl (paths : List String) (tree : FileTree) : Made paths tree tree :=
  ⟨rfl, id, fun _ => .inl rfl⟩

/-- Making directories removes none. -/
theorem keeps (made : Made paths tree after) : KeepsDirectories tree after where
  workingDirectory := made.workingDirectory
  directory location held := by
    rcases made.objects location with same | ⟨nothing, -, -⟩
    · rw [same, held]
    · rw [held] at nothing
      cases nothing

/-- What is made in two steps is made in one. -/
theorem trans {last : FileTree} (first : Made paths tree after) (second : Made paths after last) :
    Made paths tree last where
  workingDirectory := second.workingDirectory.trans first.workingDirectory
  wellFormed := second.wellFormed ∘ first.wellFormed
  objects location := by
    rcases second.objects location with same | ⟨nothing, directory, leads⟩
    · rcases first.objects location with unchanged | ⟨nothing, directory, path, among, leads⟩
      · exact .inl (same.trans unchanged)
      · exact .inr ⟨nothing, same.trans directory, path, among, second.keeps.locate leads⟩
    · rcases first.objects location with unchanged | ⟨-, held, -⟩
      · exact .inr ⟨unchanged.symm.trans nothing, directory, leads⟩
      · rw [held] at nothing
        cases nothing

/-- What is made for some paths is made for more of them. -/
theorem mono (made : Made paths tree after) (sub : paths ⊆ more) : Made more tree after where
  workingDirectory := made.workingDirectory
  wellFormed := made.wellFormed
  objects location := by
    refine (made.objects location).imp_right ?_
    rintro ⟨nothing, directory, path, among, leads⟩
    exact ⟨nothing, directory, path, sub among, leads⟩

/-- What is found under a path is still found there. -/
theorem find (made : Made paths tree after) (found : tree.find path = .ok object) :
    after.find path = .ok object := by
  obtain ⟨location, leads, held, slash⟩ := find_eq_ok_iff.mp found
  refine find_eq_ok_iff.mpr ⟨location, made.keeps.locate leads, ?_, slash⟩
  rcases made.objects location with same | ⟨nothing, -, -⟩
  · rw [same, held]
  · rw [held] at nothing
    cases nothing

end Made

/-- Creating a directory unless it is there makes at most that one. -/
theorem made_createUnlessThere (tree : FileTree) (path : String) :
    Made [path] tree (tree.createUnlessThere path).1 := by
  unfold createUnlessThere
  split
  · next after created =>
    obtain ⟨location, leads, created⟩ := exists_of_bind_eq_ok created
    split at created
    · cases created
    · next nothing =>
      obtain rfl := Except.ok.inj created
      have noDirectory : tree.objects location ≠ some .directory := nothing ▸ nofun
      have keeps := KeepsDirectories.set noDirectory (some .directory)
      refine ⟨rfl, fun wellFormed => wellFormed.set_of_locate leads noDirectory _, fun other => ?_⟩
      by_cases same : other = location
      · rw [same]
        exact .inr ⟨nothing, objects_set_self .., path, List.mem_singleton_self path,
          keeps.locate leads⟩
      · exact .inl (objects_set_of_ne tree _ same)
  · exact .refl [path] tree

/-- Creating a chain of directories makes at most those. -/
theorem made_createChain (tree : FileTree) (paths : List String) :
    Made paths tree (tree.createChain paths).1 := by
  induction paths generalizing tree with
  | nil => exact .refl [] tree
  | cons path parents ih =>
    have attempt (tree : FileTree) : Made (path :: parents) tree (tree.createUnlessThere path).1 :=
      (made_createUnlessThere tree path).mono (List.cons_subset_cons path (List.nil_subset parents))
    unfold createChain
    split
    · exact .refl (path :: parents) tree
    · have first := attempt tree
      split
      · next between failed =>
        rw [failed] at first
        have above := (ih between).mono (List.subset_cons_self path parents)
        split
        · next created succeeded =>
          rw [succeeded] at above
          exact (first.trans above).trans (attempt created)
        · exact first.trans above
      · exact first

/-- Whether or not it succeeds, making a directory makes directories to which its ancestors lead,
and changes nothing else. -/
theorem made_createDirectories (tree : FileTree) (path : String) :
    Made (FilePath.ancestors path) tree (tree.createDirectories path).1 :=
  made_createChain tree (FilePath.ancestors path)

/-! ### What is found afterwards -/

/-- A walk goes up out of a directory that was not there before: `tree` is what there was, and the
walk goes through what there is afterwards. -/
def LeavesNew (tree after : FileTree) (base : Location) (names : List String) : Prop :=
  ∃ first rest location, names = first ++ ".." :: rest ∧
    first.foldlM after.enter base = .ok location ∧
    tree.objects location = none ∧ after.objects location = some .directory

namespace LeavesNew

/-- A walk that goes up out of a new directory also does so when it goes on. -/
theorem append (leaves : LeavesNew tree after base names) (more : List String) :
    LeavesNew tree after base (names ++ more) := by
  obtain ⟨first, rest, location, rfl, leads, nothing, directory⟩ := leaves
  exact ⟨first, rest ++ more, location, List.append_assoc .., leads, nothing, directory⟩

/-- A walk that goes up out of a new directory also does so without its dots. -/
theorem filter (leaves : LeavesNew tree after base names) :
    LeavesNew tree after base (names.filter (· ≠ ".")) := by
  obtain ⟨first, rest, location, rfl, leads, nothing, directory⟩ := leaves
  exact ⟨first.filter (· ≠ "."), rest.filter (· ≠ "."), location, List.filter_append first _,
    foldlM_enter_filter leads, nothing, directory⟩

/-- A change that keeps all directories does not make up for it. -/
theorem mono {last : FileTree} (keeps : KeepsDirectories after last)
    (leaves : LeavesNew tree after base names) : LeavesNew tree last base names := by
  obtain ⟨first, rest, location, split, leads, nothing, directory⟩ := leaves
  exact ⟨first, rest, location, split, keeps.foldlM_enter leads, nothing,
    keeps.directory location directory⟩

end LeavesNew

/-- A walk to an object that was there before could be walked before, if it does not go up out of a
directory that was not there. -/
theorem Made.foldlM_enter_back {paths : List String} (made : Made paths tree after)
    (wellFormed : tree.WellFormed) (stays : ¬ LeavesNew tree after base names)
    (leads : names.foldlM after.enter base = .ok location)
    (same : after.objects location = tree.objects location)
    (held : tree.objects location ≠ none) : names.foldlM tree.enter base = .ok location := by
  induction names using List.reverseRecOn generalizing location with
  | nil => exact leads
  | append_singleton before name ih =>
    obtain ⟨between, first, entered⟩ := exists_of_foldlM_concat leads
    obtain ⟨directory, moves⟩ := cases_of_enter entered
    have wasDirectory : tree.objects between = some .directory := by
      obtain ⟨-, rfl⟩ | ⟨rfl, -⟩ | ⟨-, -, rfl⟩ := moves
      · rw [← same, directory]
      · rcases made.objects between with unchanged | ⟨nothing, -, -⟩
        · rw [← unchanged, directory]
        · exact absurd ⟨before, [], between, rfl, first, nothing, directory⟩ stays
      · exact wellFormed.parent name between held
    have walked := ih (fun leaves => stays (leaves.append [name])) first
      (directory.trans wasDirectory.symm) (wasDirectory ▸ nofun)
    rw [List.foldlM_append, walked]
    have enters := enter_congr (wasDirectory.trans directory.symm) name
    rw [entered] at enters
    exact congrArg (Except.bind · _) enters

/-- If the path of a file leads to a directory that was made above it, then it goes up out of that
directory. -/
theorem leavesNew_of_ancestor (isParent : FilePath.parent? path = some parent)
    (named : (FilePath.fileName? path).isSome) (among : above ∈ FilePath.ancestors parent)
    (leads : after.locate path = .ok location) (reaches : after.locate above = .ok location)
    (nothing : tree.objects location = none)
    (directory : after.objects location = some .directory) :
    LeavesNew tree after (after.start path) (steps path) := by
  obtain ⟨_, name, sameParent, last, goesDown⟩ := FilePath.exists_parent_of_fileName? named
  obtain rfl := Option.some.inj (isParent.symm.trans sameParent)
  obtain ⟨⟨middle, split⟩, absolute⟩ := FilePath.steps_of_mem_ancestors among
  rw [FilePath.isAbsolute_of_parent? isParent] at absolute
  have reached := foldlM_enter_steps reaches
  rw [start, absolute, ← start] at reached
  have noDot : name ≠ "." := by
    have listed : name ∈ steps path := last ▸ List.mem_concat_self
    rw [← filter_namesOf] at listed
    exact of_decide_eq_true (List.mem_filter.mp listed).2
  have led := foldlM_enter_steps leads
  rw [last, ← split, List.append_assoc] at led ⊢
  obtain ⟨passed, first, second⟩ := exists_of_foldlM_append led
  obtain rfl : passed = location := Except.ok.inj (first.symm.trans reached)
  -- From the directory the path goes on and comes back to it, in the end by going down.
  obtain ⟨between, walked, entered⟩ := exists_of_foldlM_concat second
  rcases suffix_or_leaves_of_foldlM_enter walked with below | ⟨before, rest, rfl, back⟩
  · obtain ⟨-, ⟨dot, -⟩ | ⟨up, -⟩ | ⟨-, -, rfl⟩⟩ := cases_of_enter entered
    · exact absurd dot noDot
    · exact absurd up goesDown
    · exact absurd below.length_le (Nat.not_succ_le_self between.length)
  · refine ⟨steps above ++ before, rest ++ [name], passed, ?_, ?_, nothing, directory⟩
    · rw [List.append_assoc, List.append_assoc, List.cons_append]
    · rw [List.foldlM_append, reached]
      exact back

/-- What is found under the path of a file after directories were made above it was found there
before, if the path does not go up out of one of them. -/
theorem Made.find_back (made : Made (FilePath.ancestors parent) tree after)
    (wellFormed : tree.WellFormed) (isParent : FilePath.parent? path = some parent)
    (named : (FilePath.fileName? path).isSome)
    (stays : ¬ LeavesNew tree after (after.start path) (steps path))
    (found : after.find path = .ok object) : tree.find path = .ok object := by
  obtain ⟨location, leads, held, slash⟩ := find_eq_ok_iff.mp found
  have same : after.objects location = tree.objects location := by
    rcases made.objects location with same | ⟨nothing, directory, above, among, reaches⟩
    · exact same
    · exact absurd (leavesNew_of_ancestor isParent named among leads reaches nothing directory)
        stays
  have there : tree.objects location ≠ none := by
    rw [← same, held]
    exact nofun
  obtain ⟨walkable, led⟩ := locate_eq_ok_iff.mp leads
  have walked := made.foldlM_enter_back wellFormed
    (fun leaves => stays (filter_namesOf path ▸ leaves.filter)) led same there
  rw [start, made.workingDirectory, ← start] at walked
  exact find_eq_ok_iff.mpr
    ⟨location, locate_eq_ok_iff.mpr ⟨walkable, walked⟩, same ▸ held, slash⟩

end QueryTail.FileTree
