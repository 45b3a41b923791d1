import Mathlib.Data.List.Induction
import QueryTail.Proofs.Files.Path
import QueryTail.Proofs.Files.Tree

/-!
# Walking along a path

A path leads somewhere if it can be walked name by name (`locate_eq_ok_iff`), and every name of it
must be said in a directory (`cases_of_enter`). A walk along the steps of a path ends where the walk
along its names ends (`foldlM_enter_steps`).

In a tree in which every object lies in a directory, whatever a path leads to lies in one too, so
files can be written and removed under any path without an object being left in nothing
(`WellFormed.set_of_locate`).
-/

namespace QueryTail.FileTree

open FilePath (steps)

variable {tree after : FileTree} {location goal : Location} {path : String}
  {names : List String} {object : FileObject}

/-! ### Walking -/

/-- Where the walk along a path starts. -/
def start (tree : FileTree) (path : String) : Location :=
  if FilePath.isAbsolute path then [] else tree.workingDirectory

/-- A text that can be walked along at all. -/
def Walkable (path : String) : Prop :=
  path.toList.contains '\x00' = false ∧ path.isEmpty = false ∧ path.utf8ByteSize ≤ maxPathBytes

/-- A path leads to a location when it is walkable and the walk along its names ends there. -/
theorem locate_eq_ok_iff :
    tree.locate path = .ok location ↔
      Walkable path ∧ (namesOf path).foldlM tree.enter (tree.start path) = .ok location := by
  unfold locate Walkable
  constructor
  · intro leads
    split at leads
    · cases leads
    · next noNul =>
      split at leads
      · cases leads
      · next present =>
        split at leads
        · cases leads
        · next fits =>
          exact ⟨⟨Bool.not_eq_true _ ▸ noNul, Bool.not_eq_true _ ▸ present, Nat.not_lt.mp fits⟩,
            leads⟩
  · rintro ⟨⟨noNul, present, fits⟩, leads⟩
    rw [if_neg (by rw [noNul]; decide), if_neg (by rw [present]; decide),
      if_neg (Nat.not_lt.mpr fits)]
    exact leads

/-- A path finds what is at its location, which must be a directory after a final slash. -/
theorem find_eq_ok_iff :
    tree.find path = .ok object ↔
      ∃ location, tree.locate path = .ok location ∧ tree.objects location = some object ∧
        (endsWithSlash path = true → object = .directory) := by
  unfold find
  constructor
  · intro found
    obtain ⟨location, leads, found⟩ := exists_of_bind_eq_ok found
    refine ⟨location, leads, ?_⟩
    split at found
    · cases found
    · next content held =>
      split at found
      · cases found
      · next noSlash =>
        obtain rfl := Except.ok.inj found
        exact ⟨held, fun slash => absurd slash noSlash⟩
    · next held =>
      obtain rfl := Except.ok.inj found
      exact ⟨held, fun _ => rfl⟩
  · rintro ⟨location, leads, held, slash⟩
    rw [leads]
    cases object with
    | directory => simp only [bind, Except.bind, held]
    | file content =>
      have noSlash : ¬ endsWithSlash path = true := fun ends => nomatch slash ends
      simp only [bind, Except.bind, held, if_neg noSlash]

/-- What is read can be found. -/
theorem find_of_read {content : List UInt8} (readable : tree.read path = .ok content) :
    tree.find path = .ok (.file content) := by
  obtain ⟨object, found, readable⟩ := exists_of_bind_eq_ok readable
  cases object with
  | directory => cases readable
  | file held => rwa [Except.ok.inj readable] at found

/-- A file stays as it is when something is written at the end of another file. -/
theorem read_append {content more : List UInt8} {other : String}
    (readable : tree.read path = .ok content) (appended : tree.append other more = .ok after)
    (apart : after.locate other ≠ after.locate path) : after.read path = .ok content := by
  obtain ⟨goal, leads, held, slash⟩ := find_eq_ok_iff.mp (find_of_read readable)
  obtain ⟨location, earlier, there, noDirectory, rfl⟩ := exists_of_append appended
  have keeps := KeepsDirectories.set noDirectory (some (.file (earlier ++ more)))
  have different : goal ≠ location := by
    rintro rfl
    exact apart ((keeps.locate there).trans (keeps.locate leads).symm)
  refine read_of_objects (keeps.locate leads) ?_ ?_
  · rw [objects_set_of_ne tree _ different, held]
  · exact Bool.eq_false_iff.mpr fun ends => nomatch slash ends

/-- What one name does: it must be said in a directory, and stays, goes up or goes down. -/
theorem cases_of_enter {name : String} (leads : tree.enter location name = .ok goal) :
    tree.objects location = some .directory ∧
      (name = "." ∧ goal = location ∨ name = ".." ∧ goal = location.tail ∨
        name ≠ "." ∧ name ≠ ".." ∧ goal = name :: location) := by
  unfold enter at leads
  split at leads
  · cases leads
  · cases leads
  · next held =>
    refine ⟨held, ?_⟩
    split at leads
    · next stays => exact .inl ⟨stays, (Except.ok.inj leads).symm⟩
    · next moves =>
      split at leads
      · next up => exact .inr (.inl ⟨up, (Except.ok.inj leads).symm⟩)
      · next down =>
        split at leads
        · cases leads
        · exact .inr (.inr ⟨moves, down, (Except.ok.inj leads).symm⟩)

/-- Entering depends only on what is at the location entered from. -/
theorem enter_congr (same : tree.objects location = after.objects location) (name : String) :
    tree.enter location name = after.enter location name := by
  rw [enter, enter, same]

/-- A walk along two lists of names passes through a location between them. -/
theorem exists_of_foldlM_append {first second : List String}
    (leads : (first ++ second).foldlM tree.enter location = .ok goal) :
    ∃ between, first.foldlM tree.enter location = .ok between ∧
      second.foldlM tree.enter between = .ok goal := by
  rw [List.foldlM_append] at leads
  exact exists_of_bind_eq_ok leads

/-- The last step of a walk is taken from where the names before it lead. -/
theorem exists_of_foldlM_concat {name : String}
    (leads : (names ++ [name]).foldlM tree.enter location = .ok goal) :
    ∃ between, names.foldlM tree.enter location = .ok between ∧
      tree.enter between name = .ok goal := by
  obtain ⟨between, first, second⟩ := exists_of_foldlM_append leads
  obtain ⟨_, entered, rest⟩ := exists_of_bind_eq_ok second
  obtain rfl := Except.ok.inj rest
  exact ⟨between, first, entered⟩

/-- The single dots among the names can be left out. -/
theorem foldlM_enter_filter (leads : names.foldlM tree.enter location = .ok goal) :
    (names.filter (· ≠ ".")).foldlM tree.enter location = .ok goal := by
  induction names generalizing location with
  | nil => exact leads
  | cons name rest ih =>
    obtain ⟨next, first, others⟩ := exists_of_bind_eq_ok leads
    by_cases dot : name = "."
    · rw [List.filter_cons_of_neg (by simpa using dot)]
      obtain ⟨-, ⟨-, rfl⟩ | ⟨up, -⟩ | ⟨noDot, -⟩⟩ := cases_of_enter first
      · exact ih others
      · exact absurd (dot.symm.trans up) (by decide)
      · exact absurd dot noDot
    · rw [List.filter_cons_of_pos (by simpa using dot), List.foldlM_cons, first]
      exact ih others

/-- A walk ends at or below where it began, unless it comes back there and goes up. -/
theorem suffix_or_leaves_of_foldlM_enter (leads : names.foldlM tree.enter location = .ok goal) :
    location <:+ goal ∨ ∃ first rest, names = first ++ ".." :: rest ∧
      first.foldlM tree.enter location = .ok location := by
  induction names using List.reverseRecOn generalizing goal with
  | nil =>
    obtain rfl := Except.ok.inj leads
    exact .inl List.suffix_rfl
  | append_singleton before name ih =>
    obtain ⟨between, first, entered⟩ := exists_of_foldlM_concat leads
    rcases ih first with below | ⟨start, rest, rfl, back⟩
    · obtain ⟨-, ⟨-, rfl⟩ | ⟨rfl, rfl⟩ | ⟨-, -, rfl⟩⟩ := cases_of_enter entered
      · exact .inl below
      · by_cases here : location = between
        · exact .inr ⟨before, [], rfl, here ▸ first⟩
        · cases between with
          | nil => exact absurd (List.suffix_nil.mp below) here
          | cons name higher =>
            exact .inl ((List.suffix_cons_iff.mp below).resolve_left here)
      · exact .inl (below.trans (List.suffix_cons name between))
    · exact .inr ⟨start, rest ++ [name], List.append_assoc .., back⟩

/-- The names of a path without single dots are its steps. -/
theorem filter_namesOf (path : String) : (namesOf path).filter (· ≠ ".") = steps path := by
  have isDot (part : List Char) : String.ofList part = "." ↔ part = ['.'] := by
    rw [String.ext_iff, String.toList_ofList]
    exact Iff.rfl
  rw [namesOf, List.filter_map, List.filter_filter, steps, FilePath.namedParts]
  congr 1
  refine List.filter_congr fun part _ => ?_
  by_cases dot : part = ['.'] <;> simp [FilePath.isName, isDot part, dot]

/-- A path that leads somewhere leads there along its steps. -/
theorem foldlM_enter_steps (leads : tree.locate path = .ok location) :
    (steps path).foldlM tree.enter (tree.start path) = .ok location := by
  rw [← filter_namesOf]
  exact foldlM_enter_filter (locate_eq_ok_iff.mp leads).2

/-- A path with a file name that ends with a dot leads to a directory. -/
theorem directory_of_endsWithDots (named : (FilePath.fileName? path).isSome)
    (dots : endsWithDots path = true) (leads : tree.locate path = .ok location) :
    tree.objects location = some .directory := by
  obtain ⟨parent, name, -, last, goesDown⟩ := FilePath.exists_parent_of_fileName? named
  rw [← filter_namesOf] at last
  unfold endsWithDots at dots
  split at dots
  · next nothing =>
    rw [List.getLast?_eq_none_iff.mp nothing] at last
    exact absurd last.symm (List.append_ne_nil_of_right_ne_nil _ (List.cons_ne_nil name []))
  · next final ends =>
    obtain ⟨first, split⟩ := List.getLast?_eq_some_iff.mp ends
    have led := (locate_eq_ok_iff.mp leads).2
    rw [split] at last led
    obtain ⟨between, -, entered⟩ := exists_of_foldlM_concat led
    obtain ⟨directory, ⟨-, rfl⟩ | ⟨rfl, -⟩ | ⟨noDot, noUp, -⟩⟩ := cases_of_enter entered
    · exact directory
    · rw [List.filter_append] at last
      exact absurd (List.singleton_inj.mp (List.append_inj' last rfl).2).symm goesDown
    · rw [beq_eq_false_iff_ne.mpr noDot, beq_eq_false_iff_ne.mpr noUp] at dots
      cases dots

/-- A path without names is one of slashes only. -/
theorem isAbsolute_of_namesOf_eq_nil (present : path.isEmpty = false)
    (nothing : namesOf path = []) : FilePath.isAbsolute path = true := by
  rw [namesOf, List.map_eq_nil_iff, List.filter_eq_nil_iff] at nothing
  unfold FilePath.isAbsolute
  cases text : path.toList with
  | nil =>
    rw [String.toList_eq_nil_iff.mp text] at present
    cases present
  | cons c rest =>
    by_cases slash : c = '/'
    · rw [slash]
      rfl
    · rw [text, FilePath.partsBetween, if_neg slash] at nothing
      split at nothing
      · exact absurd rfl (nothing [c] List.mem_cons_self)
      · next first others _ => exact absurd rfl (nothing (c :: first) List.mem_cons_self)

/-! ### Trees in which every object lies in a directory -/

/-- The root is a directory, and so is whatever something lies in. -/
structure WellFormed (tree : FileTree) : Prop where
  root : tree.objects [] = some .directory
  parent : ∀ name location, tree.objects (name :: location) ≠ none →
    tree.objects location = some .directory

namespace WellFormed

/-- A tree that holds its working directory, what that lies in and nothing else is well-formed. -/
theorem empty (workingDirectory : Location) : (FileTree.empty workingDirectory).WellFormed where
  root := rfl
  parent name location held := by
    unfold FileTree.empty at held ⊢
    dsimp only at held ⊢
    split at held
    · next below =>
      have above := (List.suffix_cons name location).trans (List.isSuffixOf_iff_suffix.mp below)
      exact if_pos (List.isSuffixOf_iff_suffix.mpr above)
    · exact absurd rfl held

/-- An object in a directory may be changed, unless it is a directory itself. -/
theorem set (wellFormed : tree.WellFormed) {name : String}
    (lies : tree.objects location = some .directory)
    (noDirectory : tree.objects (name :: location) ≠ some .directory)
    (object : Option FileObject) : (tree.set (name :: location) object).WellFormed where
  root := by
    rw [objects_set_of_ne tree object (List.cons_ne_nil name location).symm, wellFormed.root]
  parent other place held := by
    have keeps := KeepsDirectories.set noDirectory object
    refine keeps.directory place ?_
    by_cases same : other :: place = name :: location
    · obtain ⟨-, rfl⟩ := List.cons.inj same
      exact lies
    · rw [objects_set_of_ne tree object same] at held
      exact wellFormed.parent other place held

/-- A path that leads to no directory leads to a place in one. -/
theorem exists_parent (wellFormed : tree.WellFormed) (leads : tree.locate path = .ok location)
    (noDirectory : tree.objects location ≠ some .directory) :
    ∃ name above, location = name :: above ∧ tree.objects above = some .directory := by
  obtain ⟨⟨-, present, -⟩, led⟩ := locate_eq_ok_iff.mp leads
  rcases List.eq_nil_or_concat (namesOf path) with nothing | ⟨before, name, split⟩
  · rw [nothing] at led
    obtain rfl := Except.ok.inj led
    rw [start, if_pos (isAbsolute_of_namesOf_eq_nil present nothing)] at noDirectory
    exact absurd wellFormed.root noDirectory
  · rw [split, List.concat_eq_append] at led
    obtain ⟨between, -, entered⟩ := exists_of_foldlM_concat led
    obtain ⟨directory, ⟨-, rfl⟩ | ⟨-, rfl⟩ | ⟨-, -, rfl⟩⟩ := cases_of_enter entered
    · exact absurd directory noDirectory
    · cases between with
      | nil => exact absurd directory noDirectory
      | cons name above =>
        exact absurd (wellFormed.parent name above (directory ▸ nofun)) noDirectory
    · exact ⟨name, between, rfl, directory⟩

/-- What a path leads to may be changed, unless it is a directory. -/
theorem set_of_locate (wellFormed : tree.WellFormed) (leads : tree.locate path = .ok location)
    (noDirectory : tree.objects location ≠ some .directory) (object : Option FileObject) :
    (tree.set location object).WellFormed := by
  obtain ⟨name, above, rfl, lies⟩ := wellFormed.exists_parent leads noDirectory
  exact wellFormed.set lies noDirectory object

end WellFormed

end QueryTail.FileTree
