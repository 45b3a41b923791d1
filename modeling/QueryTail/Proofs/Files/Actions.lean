import QueryTail.Files.Actions

/-!
# Actions on a tree of files

What the actions on a tree of files give and leave behind, one after the other.
-/

namespace QueryTail

/-- An action in a state, and the next one in the state that it leaves. -/
theorem bind_state {State α β : Type} (first : StateM State α) (next : α → StateM State β)
    (state : State) : (first >>= next) state = next (first state).1 (first state).2 := rfl

namespace FileTree

variable {operation : FileTree → Except FileCause FileTree} {files changed : FileTree}
  {cause : FileCause}

/-- Performing an operation that succeeds changes the files to its result. -/
theorem perform_of_ok (succeeds : operation files = .ok changed) :
    perform operation files = (.ok (), changed) := by
  rw [perform, succeeds]

/-- An operation that fails leaves the files as they are. -/
theorem perform_of_error (fails : operation files = .error cause) :
    perform operation files = (.error cause, files) := by
  rw [perform, fails]

end FileTree

end QueryTail
