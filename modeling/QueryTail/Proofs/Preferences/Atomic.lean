import QueryTail.Proofs.Files.Making
import QueryTail.Proofs.Preferences

/-!
# Saving preferences is all or nothing

The steps of saving can fail at many places, and what is there before can be anything. Afterwards
the file holds the new text, or what was under its path is still there; no other file but the one
under the temporary path is touched; nothing is new but the file itself and directories above it
(`save_atomic`).

There is one thing that a failed attempt can change about the path. The directories that are missing
above the file are made first. If the path goes up again out of one of them, then it leads nowhere
before they are made, and to what is above them afterwards (`save_reveals`).
-/

namespace QueryTail.Preferences

open FileTree (KeepsDirectories LeavesNew Made)
open FilePath (steps)

variable {files room after : FileTree} {temporary path parent : String} {content : List UInt8}
  {outcome : Except Fault Unit} {location : Location} {object : FileObject}

/-! ### Putting a text into a file -/

/-- How it ends to put a text into a file by way of another file. -/
inductive Replacement (files : FileTree) (temporary path : String) (content : List UInt8) :
    FileTree → Except Fault Unit → Prop where
  /-- The temporary file cannot be written. -/
  | refused (cause : FileCause) :
    Replacement files temporary path content files (.error (writingFault temporary cause))
  /-- The temporary file was written, could not be renamed and was removed. -/
  | undone {location : Location} {cause : FileCause}
    (leads : files.locate temporary = .ok location)
    (noDirectory : files.objects location ≠ some .directory)
    (failed : (files.set location (some (.file content))).renameFile temporary path =
      .error cause) :
    Replacement files temporary path content (files.set location none)
      (.error (replacingFault path cause))
  /-- The temporary file was written and renamed. -/
  | done {location goal : Location} (leads : files.locate temporary = .ok location)
    (noDirectory : files.objects location ≠ some .directory)
    (toGoal : files.locate path = .ok goal)
    (noDirectoryThere : files.objects goal ≠ some .directory) :
    Replacement files temporary path content
      ((files.set location none).set goal (some (.file content))) (.ok ())

/-- Replacing a file ends in one of the ways of `Replacement`. -/
theorem replacement_replaceFile (files : FileTree) (temporary path : String)
    (content : List UInt8) :
    Replacement files temporary path content
      (replaceFile FileTree.actions temporary path content files).2
      (replaceFile FileTree.actions temporary path content files).1 := by
  rw [replaceFile_actions]
  split
  · next cause refused => exact .refused cause
  · next written wrote =>
    obtain ⟨location, leads, noDirectory, rfl⟩ := FileTree.exists_of_write wrote
    have keeps := KeepsDirectories.set noDirectory (some (.file content))
    split
    · next renamed =>
      obtain ⟨origin, goal, moved, fromThere, toThere, held, noDirectoryThere, -, rfl⟩ :=
        FileTree.exists_of_renameFile renamed
      obtain rfl : location = origin :=
        Except.ok.inj ((keeps.locate leads).symm.trans fromThere)
      rw [FileTree.objects_set_self] at held
      obtain rfl := FileObject.file.inj (Option.some.inj held)
      rw [FileTree.set_set]
      have back : KeepsDirectories (files.set location (some (.file content))) files :=
        .unset nofun
      exact .done leads noDirectory (back.locate toThere) fun directory =>
        noDirectoryThere (keeps.directory goal directory)
    · next cause failed =>
      have removed := FileTree.removeFile_eq_ok (keeps.locate leads)
        (FileTree.objects_set_self ..) (FileTree.endsWithSlash_of_write wrote)
      rw [removed, FileTree.set_set]
      exact .undone leads noDirectory failed

namespace Replacement

/-- Replacing a file removes no directory. -/
theorem keeps (replacement : Replacement files temporary path content after outcome) :
    KeepsDirectories files after := by
  cases replacement with
  | refused cause => exact ⟨rfl, fun _ held => held⟩
  | undone leads noDirectory failed => exact .set noDirectory none
  | @done location goal leads noDirectory toGoal noDirectoryThere =>
    have back : KeepsDirectories (files.set location none) files := .unset nofun
    exact (KeepsDirectories.set noDirectory none).trans
      (.set (fun directory => noDirectoryThere (back.directory goal directory)) _)

/-- Every object still lies in a directory. -/
theorem wellFormed (replacement : Replacement files temporary path content after outcome)
    (before : files.WellFormed) : after.WellFormed := by
  cases replacement with
  | refused cause => exact before
  | undone leads noDirectory failed => exact before.set_of_locate leads noDirectory none
  | @done location goal leads noDirectory toGoal noDirectoryThere =>
    have cleared := before.set_of_locate leads noDirectory none
    have keeps := KeepsDirectories.set noDirectory (none : Option FileObject)
    have back : KeepsDirectories (files.set location none) files := .unset nofun
    exact cleared.set_of_locate (keeps.locate toGoal)
      (fun directory => noDirectoryThere (back.directory goal directory)) _

/-- If the attempt fails, then what was found under a path with a file name still is, and nothing
else is found there. -/
theorem find_iff (replacement : Replacement files temporary path content after outcome)
    (named : (FilePath.fileName? path).isSome) (fails : outcome ≠ .ok ()) :
    after.find path = .ok object ↔ files.find path = .ok object := by
  cases replacement with
  | refused cause => exact Iff.rfl
  | done leads noDirectory toGoal noDirectoryThere => exact absurd rfl fails
  | @undone location cause leads noDirectory failed =>
    have keeps := KeepsDirectories.set noDirectory (none : Option FileObject)
    have back : KeepsDirectories (files.set location none) files := .unset nofun
    rw [FileTree.find_eq_ok_iff, FileTree.find_eq_ok_iff]
    constructor
    · rintro ⟨goal, led, held, slash⟩
      have elsewhere : goal ≠ location := by
        rintro rfl
        rw [FileTree.objects_set_self] at held
        cases held
      rw [FileTree.objects_set_of_ne files none elsewhere] at held
      exact ⟨goal, back.locate led, held, slash⟩
    · rintro ⟨goal, led, held, slash⟩
      have elsewhere : goal ≠ location := by
        -- Otherwise there was nothing that could keep the file from being renamed.
        rintro rfl
        have noSlash := Bool.eq_false_iff.mpr fun ends =>
          noDirectory (held.trans (congrArg some (slash ends)))
        have noDots := Bool.eq_false_iff.mpr fun dots =>
          noDirectory (FileTree.directory_of_endsWithDots named dots led)
        have written := KeepsDirectories.set noDirectory (some (.file content))
        have isFile := FileTree.objects_set_self files goal (some (.file content))
        have renamed := FileTree.renameFile_eq_ok (written.locate leads) (written.locate led) isFile
          noDots noSlash (by rw [isFile]; exact nofun)
        rw [renamed] at failed
        cases failed
      refine ⟨goal, keeps.locate led, ?_, slash⟩
      rw [FileTree.objects_set_of_ne files none elsewhere, held]

end Replacement

/-! ### What becomes of each object -/

/-- What becomes of what is at a location when a text is saved under a path: `files` is what there
was before, `after` is what there is afterwards. -/
inductive Fate (files after : FileTree) (path : String) (content : List UInt8)
    (outcome : Except Fault Unit) (location : Location) : Prop where
  /-- It stays as it was. -/
  | kept (same : after.objects location = files.objects location)
  /-- A directory was missing and was made, because it lies above the file. -/
  | made {parent above : String} (isParent : FilePath.parent? path = some parent)
    (among : above ∈ FilePath.ancestors parent) (leads : after.locate above = .ok location)
    (nothing : files.objects location = none) (directory : after.objects location = some .directory)
  /-- A file was under the temporary path and is gone. -/
  | cleared {held : List UInt8} (leads : after.locate (temporaryPath path) = .ok location)
    (wasFile : files.objects location = some (.file held)) (nothing : after.objects location = none)
  /-- The file was saved. -/
  | saved (succeeds : outcome = .ok ()) (leads : after.locate path = .ok location)
    (noDirectory : files.objects location ≠ some .directory)
    (holds : after.objects location = some (.file content))

namespace Fate

/-- Nothing comes of making directories but directories. -/
theorem of_made (isParent : FilePath.parent? path = some parent)
    (made : Made (FilePath.ancestors parent) files after) (location : Location) :
    Fate files after path content outcome location := by
  rcases made.objects location with same | ⟨nothing, directory, above, among, leads⟩
  · exact .kept same
  · exact .made isParent among leads nothing directory

/-- What comes of putting the text into the file. -/
theorem of_replacement
    (replacement : Replacement files (temporaryPath path) path content after outcome)
    (location : Location) : Fate files after path content outcome location := by
  have keeps := replacement.keeps
  -- The temporary file was removed: there was a file before, or there was nothing and is nothing.
  have removed {place : Location} (leads : files.locate (temporaryPath path) = .ok place)
      (noDirectory : files.objects place ≠ some .directory)
      (nothing : after.objects place = none) : Fate files after path content outcome place := by
    cases held : files.objects place with
    | none => exact .kept (nothing.trans held.symm)
    | some object =>
      cases object with
      | directory => exact absurd held noDirectory
      | file content => exact .cleared (keeps.locate leads) held nothing
  cases replacement with
  | refused cause => exact .kept rfl
  | @undone place cause leads noDirectory failed =>
    by_cases here : location = place
    · exact here ▸ removed leads noDirectory (FileTree.objects_set_self ..)
    · exact .kept (FileTree.objects_set_of_ne files none here)
  | @done place goal leads noDirectory toGoal noDirectoryThere =>
    by_cases there : location = goal
    · subst there
      exact .saved rfl (keeps.locate toGoal) noDirectoryThere (FileTree.objects_set_self ..)
    · have other := FileTree.objects_set_of_ne (files.set place none)
        (some (FileObject.file content)) there
      by_cases here : location = place
      · subst here
        exact removed leads noDirectory (other.trans (FileTree.objects_set_self ..))
      · exact .kept (other.trans (FileTree.objects_set_of_ne files none here))

/-- Directories that were made before change nothing else about what comes of the rest. -/
theorem after_made (isParent : FilePath.parent? path = some parent)
    (made : Made (FilePath.ancestors parent) files room) (keeps : KeepsDirectories room after)
    (fate : Fate room after path content outcome location) :
    Fate files after path content outcome location := by
  rcases made.objects location with same | ⟨nothing, directory, above, among, leads⟩
  · cases fate with
    | kept unchanged => exact .kept (unchanged.trans same)
    | made isParent among leads nothing directory =>
      exact .made isParent among leads (same ▸ nothing) directory
    | cleared leads wasFile nothing => exact .cleared leads (same ▸ wasFile) nothing
    | saved succeeds leads noDirectory holds =>
      exact .saved succeeds leads (same ▸ noDirectory) holds
  · exact .made isParent among (keeps.locate leads) nothing (keeps.directory location directory)

end Fate

/-! ### Saving -/

/-- Making room for a file makes the directory that it is to lie in. -/
theorem makeRoom_actions (files : FileTree) (isParent : FilePath.parent? path = some parent) :
    makeRoom FileTree.actions path files =
      ((files.createDirectories parent).2.mapError (directoryFault parent),
        (files.createDirectories parent).1) := by
  rw [makeRoom, isParent]
  rfl

/-- How it ends to save preferences under a path with a file name: the directories above the file
cannot all be made, or they are and the text is put into the file. -/
theorem save_cases (preferences : Preferences) (files : FileTree)
    (named : (FilePath.fileName? path).isSome) :
    ∃ parent room, FilePath.parent? path = some parent ∧
      Made (FilePath.ancestors parent) files room ∧
      ((∃ fault, preferences.save files path = (room, .error fault)) ∨
        Replacement room (temporaryPath path) path (Text.utf8 preferences.text.toList)
          (preferences.save files path).1 (preferences.save files path).2) := by
  obtain ⟨parent, -, isParent, -, -⟩ := FilePath.exists_parent_of_fileName? named
  refine ⟨parent, _, isParent, FileTree.made_createDirectories files parent, ?_⟩
  rw [save_eq, makeRoom_actions files isParent]
  cases (files.createDirectories parent).2 with
  | error cause => exact .inl ⟨directoryFault parent cause, rfl⟩
  | ok =>
    simp only [Except.mapError, Prod.fst_swap, Prod.snd_swap]
    exact .inr (replacement_replaceFile _ _ path _)

/-- Saving leaves every object in a directory. -/
theorem wellFormed_save (preferences : Preferences) (wellFormed : files.WellFormed)
    (named : (FilePath.fileName? path).isSome) :
    (preferences.save files path).1.WellFormed := by
  obtain ⟨parent, room, isParent, made, ⟨fault, failed⟩ | replacement⟩ :=
    save_cases preferences files named
  · rw [failed]
    exact made.wellFormed wellFormed
  · exact replacement.wellFormed (made.wellFormed wellFormed)

/-- What becomes of every object when preferences are saved. -/
theorem fate_save (preferences : Preferences) (files : FileTree)
    (named : (FilePath.fileName? path).isSome) (location : Location) :
    Fate files (preferences.save files path).1 path (Text.utf8 preferences.text.toList)
      (preferences.save files path).2 location := by
  obtain ⟨parent, room, isParent, made, ⟨fault, failed⟩ | replacement⟩ :=
    save_cases preferences files named
  · rw [failed]
    exact .of_made isParent made location
  · exact .after_made isParent made replacement.keeps (.of_replacement replacement location)

/-- If saving fails, then what was found under the path still is. -/
theorem find_save (preferences : Preferences) (named : (FilePath.fileName? path).isSome)
    (fails : (preferences.save files path).2 ≠ .ok ()) (found : files.find path = .ok object) :
    (preferences.save files path).1.find path = .ok object := by
  obtain ⟨parent, room, isParent, made, ⟨fault, failed⟩ | replacement⟩ :=
    save_cases preferences files named
  · rw [failed]
    exact made.find found
  · exact (replacement.find_iff named fails).mpr (made.find found)

/-- If saving fails, then what is found under the path was found there before, or the path goes up
out of a directory that was made. -/
theorem find_of_find_save (preferences : Preferences) (wellFormed : files.WellFormed)
    (named : (FilePath.fileName? path).isSome)
    (fails : (preferences.save files path).2 ≠ .ok ())
    (found : (preferences.save files path).1.find path = .ok object) :
    files.find path = .ok object ∨
      LeavesNew files (preferences.save files path).1
        ((preferences.save files path).1.start path) (steps path) := by
  obtain ⟨parent, room, isParent, made, ⟨fault, failed⟩ | replacement⟩ :=
    save_cases preferences files named
  · rw [failed] at found ⊢
    exact or_iff_not_imp_right.mpr fun stays =>
      made.find_back wellFormed isParent named stays found
  · have sameStart : (preferences.save files path).1.start path = room.start path := by
      rw [FileTree.start, replacement.keeps.workingDirectory, ← FileTree.start]
    have foundThere := (replacement.find_iff named fails).mp found
    by_cases leaves : LeavesNew files room (room.start path) (steps path)
    · exact .inr (sameStart ▸ leaves.mono replacement.keeps)
    · exact .inl (made.find_back wellFormed isParent named leaves foundThere)

/-- Whatever there is before, whatever path with a file name is given, saving preferences is all or
nothing.

If it succeeds, then the path holds their text. If it fails, then what was under the path still is;
and if nothing was there, nothing is, unless the path goes up out of a directory that was made.
Either way, what is at any location stays as it was, but for directories that were missing above
the file, for a file under the temporary path, which is removed, and, on success, for the file
itself. -/
theorem save_atomic (preferences : Preferences) (files : FileTree) (path : String)
    (wellFormed : files.WellFormed) (named : (FilePath.fileName? path).isSome) :
    let content := Text.utf8 preferences.text.toList
    let after := (preferences.save files path).1
    let outcome := (preferences.save files path).2
    (outcome = .ok () → after.read path = .ok content) ∧
    (outcome ≠ .ok () → ∀ object,
      (files.find path = .ok object → after.find path = .ok object) ∧
      (after.find path = .ok object →
        files.find path = .ok object ∨ LeavesNew files after (after.start path) (steps path))) ∧
    ∀ location, Fate files after path content outcome location := by
  intro content after outcome
  refine ⟨fun succeeds => ?_, fun fails object => ⟨?_, ?_⟩, fate_save preferences files named⟩
  · exact read_of_save (Prod.ext rfl succeeds)
  · exact find_save preferences named fails
  · exact find_of_find_save preferences wellFormed named fails

/-- Under one path there is a directory, and a file was left under its temporary path: the file is
written and cannot be renamed, so it is removed, and the directory is still there. Under the other
path there is nothing, not even a directory for the file, and saving succeeds. -/
theorem save_atomic_occupied :
    let files := (((FileTree.empty []).set ["data"] (some .directory)).set
      ["session.json", "data"] (some .directory)).set
      ["session.json.tmp", "data"] (some (.file [0xff]))
    let occupied := "data/session.json"
    let free := "data/new/session.json"
    let preferences : Preferences := ⟨1, 1000, .retain, 50, 2000, ["ns1"], ⟨[], "", "x"⟩⟩
    let content := Text.utf8 preferences.text.toList
    let (kept, failed) := preferences.save files occupied
    let (filled, succeeded) := preferences.save files free
    files.WellFormed ∧
      ((FilePath.fileName? occupied).isSome ∧
        failed = .error (replacingFault occupied .isADirectory) ∧
        kept.find occupied = .ok .directory ∧ kept.has (temporaryPath occupied) = false ∧
        ∀ location, Fate files kept occupied content failed location) ∧
      ((FilePath.fileName? free).isSome ∧ succeeded = .ok () ∧ filled.read free = .ok content ∧
        ∀ location, Fate files filled free content succeeded location) := by
  intro files occupied free preferences content
  have wellFormed : files.WellFormed :=
    ((FileTree.WellFormed.empty []).set rfl (by decide) _).set rfl (by decide) _
      |>.set rfl (by decide) _
  have named : (FilePath.fileName? occupied).isSome := by decide
  have namedFree : (FilePath.fileName? free).isSome := by decide
  obtain ⟨-, keeps, fates⟩ := save_atomic preferences files occupied wellFormed named
  obtain ⟨holds, -, fatesFree⟩ := save_atomic preferences files free wellFormed namedFree
  have fails : (preferences.save files occupied).2 =
      .error (replacingFault occupied .isADirectory) := by
    decide +kernel
  have succeeds : (preferences.save files free).2 = .ok () := by decide +kernel
  have notOk : (preferences.save files occupied).2 ≠ .ok () := by
    rw [fails]
    exact nofun
  have held := (keeps notOk .directory).1 (by decide +kernel)
  exact ⟨wellFormed, ⟨named, fails, held, by decide +kernel, fates⟩,
    namedFree, succeeds, holds succeeds, fatesFree⟩

/-- Under `d/../s.json` and `d/../d` there is nothing as long as there is no directory `d`. The
directory is made, then saving fails, and then there is something: a file that was there all the
time, or the directory. -/
theorem save_reveals :
    let preferences : Preferences := ⟨1, 1000, .retain, 50, 2000, ["ns1"], ⟨[], "", "x"⟩⟩
    let files := ((FileTree.empty []).set ["s.json"] (some (.file [0x6f, 0x6c, 0x64]))).set
      ["s.json.tmp"] (some .directory)
    (files.WellFormed ∧ (FilePath.fileName? "d/../s.json").isSome ∧
      (preferences.save files "d/../s.json").2 ≠ .ok () ∧
      files.find "d/../s.json" = .error .notFound ∧
      (preferences.save files "d/../s.json").1.find "d/../s.json" =
        .ok (.file [0x6f, 0x6c, 0x64])) ∧
    (files.WellFormed ∧ (FilePath.fileName? "d/../d").isSome ∧
      (preferences.save files "d/../d").2 ≠ .ok () ∧
      files.find "d/../d" = .error .notFound ∧
      (preferences.save files "d/../d").1.find "d/../d" = .ok .directory) := by
  intro preferences files
  have wellFormed : files.WellFormed :=
    ((FileTree.WellFormed.empty []).set rfl (by decide) _).set rfl (by decide) _
  refine ⟨⟨wellFormed, ?_, ?_, ?_, ?_⟩, wellFormed, ?_, ?_, ?_, ?_⟩ <;> decide +kernel

end QueryTail.Preferences
