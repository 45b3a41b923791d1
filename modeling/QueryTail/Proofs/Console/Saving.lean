import QueryTail.Console.Run
import QueryTail.Proofs.Files.Walk
import QueryTail.Proofs.Preferences

/-!
# What the end of a run leaves in its files

A run acts on files through its surroundings. To save preferences there is to save them in the tree
of files and to leave the rest alone (`saveTo_actions`), so that what is known of `Preferences.save`
holds of the end of a run: the file that it leaves is loaded as the preferences that it ended with
(`Ending.Kept`).

Behind the saving only its own events are logged. They could spoil the file if they went to the same
one.
-/

namespace QueryTail

namespace Surroundings

/-! ### Files as a part of the surroundings -/

/-- Actions on files one after the other, the rest being left alone all the time. -/
theorem onFiles_bind {α β : Type} (action : StateM FileTree α) (next : α → StateM FileTree β) :
    onFiles (action >>= next) = onFiles action >>= fun value => onFiles (next value) := rfl

/-- Making room in the surroundings is making room in their files. -/
theorem makeRoom_actions (path : String) :
    Preferences.makeRoom actions.toFileActions path =
      onFiles (Preferences.makeRoom FileTree.actions path) := by
  unfold Preferences.makeRoom
  cases FilePath.parent? path <;> rfl

/-- Replacing a file in the surroundings is replacing it in their files. -/
theorem replaceFile_actions (temporary path : String) (content : List UInt8) :
    Preferences.replaceFile actions.toFileActions temporary path content =
      onFiles (Preferences.replaceFile FileTree.actions temporary path content) := by
  unfold Preferences.replaceFile
  rw [onFiles_bind]
  refine bind_congr fun written => ?_
  cases written with
  | error cause => rfl
  | ok =>
    dsimp only
    rw [onFiles_bind]
    refine bind_congr fun renamed => ?_
    cases renamed <;> rfl

/-- To save preferences is to save them in the tree of files. -/
theorem saveTo_actions (preferences : Preferences) (path : String) :
    preferences.saveTo actions.toFileActions path =
      onFiles (preferences.saveTo FileTree.actions path) := by
  unfold Preferences.saveTo
  rw [makeRoom_actions, onFiles_bind]
  refine bind_congr fun made => ?_
  cases made with
  | error fault => rfl
  | ok => exact replaceFile_actions ..

/-- The surroundings in which preferences have been saved under a path, or could not be. -/
def saving (around : Surroundings) (preferences : Preferences) (path : String) : Surroundings :=
  { around with files := (preferences.save around.files path).1 }

/-! ### The log and other files -/

/-- The log does not go to the file under a path. -/
def LogsApart (around : Surroundings) (path : String) : Prop :=
  ∀ place ∈ around.log.path, around.files.locate place ≠ around.files.locate path

/-- A log that has no file goes to none. -/
theorem logsApart_of_unlogged {around : Surroundings} (unlogged : around.log.path = none)
    (path : String) : around.LogsApart path := by
  simp [LogsApart, unlogged]

/-- Events do not change what is read from a file that the log does not go to. -/
theorem read_note {around : Surroundings} {events : List LogEvent} {path : String}
    {content : List UInt8} (readable : around.files.read path = .ok content)
    (apart : (around.note events).LogsApart path) :
    (around.note events).files.read path = .ok content := by
  obtain ⟨files, ⟨filter, place⟩, printed⟩ := around
  cases place with
  | none => exact readable
  | some place =>
    have different := apart place rfl
    simp only [note, Log.note] at readable different ⊢
    cases appended : files.append place
        (Text.utf8 (Text.ofLines (Log.linesOf ⟨filter, some place⟩ events))) with
    | error cause => exact readable
    | ok after =>
      rw [appended] at different
      exact FileTree.read_append readable appended different

end Surroundings

namespace Console

/-- What holds of the surroundings that a run leaves when it ends: its preferences were saved under a
path, as the ending says, and whatever of its events the log takes was written after that. So the
file under the path is loaded as these preferences, if saving succeeded and the log does not go
there. -/
structure Ending.Kept (ending : Ending) (path : String) (after : Surroundings) : Prop where
  saved : ∃ before : Surroundings,
    ending.saving = (ending.preferences.save before.files path).2 ∧
      after = (before.saving ending.preferences path).note (savingEvents path ending.saving)
  loads : ending.saving = .ok () → after.LogsApart path →
    Preferences.load after.files path = some ending.preferences

/-- Preferences of the version in use are kept where they were saved. -/
theorem Ending.kept_of_saved {ending : Ending} {path : String} {before after : Surroundings}
    (current : ending.preferences.version = Preferences.currentVersion)
    (outcome : ending.saving = (ending.preferences.save before.files path).2)
    (left : after =
      (before.saving ending.preferences path).note (savingEvents path ending.saving)) :
    ending.Kept path after where
  saved := ⟨before, outcome, left⟩
  loads succeeds apart := by
    have written : (before.saving ending.preferences path).files.read path =
        .ok (Text.utf8 ending.preferences.text.toList) :=
      Preferences.read_of_save (Prod.ext rfl (outcome.symm.trans succeeds))
    subst left
    rw [Preferences.load_of_read (Surroundings.read_note written apart), if_pos current]

/-- A console saves its preferences, and then logs what came of that. -/
theorem savePreferences_actions (console : Console) (path : String) (around : Surroundings) :
    console.savePreferences Surroundings.actions path around =
      ((console.preferences.save around.files path).2,
        (around.saving console.preferences path).note
          (savingEvents path (console.preferences.save around.files path).2)) := by
  unfold savePreferences
  rw [Surroundings.saveTo_actions]
  rfl

/-- The end of a run keeps the preferences of its console. -/
theorem kept_finish {console : Console} {arguments : Arguments} {path : String}
    {around : Surroundings} {ending : Ending}
    (ended : (console.finish Surroundings.actions arguments path around).1 = .ok ending) :
    ending.preferences = console.preferences ∧
      ending.Kept path (console.finish Surroundings.actions arguments path around).2 := by
  unfold finish at ended ⊢
  rw [bind_state, bind_state] at ended ⊢
  cases exported : (console.exportWindow Surroundings.actions arguments
      (Surroundings.actions.note console.endEvents around).2).1 with
  | error fault =>
    rw [exported] at ended
    cases ended
  | ok =>
    rw [exported] at ended
    dsimp only at ended ⊢
    rw [bind_state, savePreferences_actions] at ended ⊢
    obtain rfl := Except.ok.inj ended
    exact ⟨rfl, Ending.kept_of_saved rfl rfl rfl⟩

end Console

end QueryTail
