import QueryTail.Preferences
import QueryTail.Proofs.Files.Actions
import QueryTail.Proofs.Files.Tree
import QueryTail.Proofs.Json.Record
import QueryTail.Proofs.Text.Utf8

/-!
# Saved preferences read back

Preferences are loaded as they were saved, if their version is the one in use (`load_save`). The
text of preferences denotes them (`decode?_text`), and the bytes of that text are what the path
holds once the temporary file has taken its place (`read_of_save`). Nothing is asked of the files
there were before, of the two paths, or of the preferences.
-/

namespace QueryTail

open Json (Form)

/-- A list of texts has no double. -/
theorem Json.itemsHaveReal_texts (texts : List String) :
    itemsHaveReal (texts.map .string) = false :=
  itemsHaveReal_eq_false_iff.mpr (List.forall_mem_map.mpr fun _ _ => rfl)

/-! ### Filters -/

namespace SavedFilter

/-- The fields of a filter have different names. -/
theorem distinct_fields (rounds : Nat) :
    ((fields rounds).map Json.RecordField.name).Nodup := by
  simp [fields]

/-- A saved filter has no double. -/
theorem hasReal_toJson (filter : SavedFilter) : filter.toJson.hasReal = false := by
  simp [toJson, Json.hasReal, Json.membersHaveReal, Json.itemsHaveReal_texts]

/-- A filter is read back from its written form. -/
theorem read_body (form : Form) (level : Nat) (filter : SavedFilter) {rounds : Nat}
    (enough : (form.body level filter.toJson).length ≤ rounds) (rest : List Char) :
    read rounds (form.body level filter.toJson ++ rest) = some (filter, rest) := by
  have sourcesFit : (form.body (level + 1) (.array (filter.sources.map .string))).length ≤ rounds :=
    (form.length_member_le level List.mem_cons_self).trans enough
  refine form.readRecord_body (distinct_fields rounds) filter.hasReal_toJson ?_ enough rest
  refine .cons (fun after _ => congrArg (Option.map _) (form.readTexts_body _ sourcesFit after)) ?_
  refine .cons (fun after _ => congrArg (Option.map _) (form.readText_body _ _ after)) ?_
  refine .cons (fun after _ => congrArg (Option.map _) (form.readText_body _ _ after)) ?_
  exact .nil filter

end SavedFilter

namespace Preferences

variable {preferences : Preferences} {files after : FileTree} {path : String}

/-! ### The text of preferences -/

/-- The fields of preferences have different names. -/
theorem distinct_fields (rounds : Nat) :
    ((fields rounds).map Json.RecordField.name).Nodup := by
  simp [fields]

/-- Preferences have no double. -/
theorem hasReal_toJson (preferences : Preferences) : preferences.toJson.hasReal = false := by
  simp [toJson, Json.hasReal, Json.membersHaveReal, Json.itemsHaveReal_texts, Json.natural,
    SavedFilter.hasReal_toJson]

/-- A policy is read back from its label. -/
theorem readPolicy_body (form : Form) (level : Nat) (policy : CapacityPolicy) (rest : List Char) :
    readPolicy (form.body level (.string policy.label) ++ rest) = some (policy, rest) := by
  rw [form.scalar _ _ rfl, Json.compact, Json.quote_append, readPolicy, Json.readString_quoted]
  simp

/-- What has been read when all fields have. -/
def Draft.ofPreferences (preferences : Preferences) : Draft :=
  ⟨some preferences.version, some preferences.capacity, preferences.policy, preferences.pageSize,
    preferences.interval, preferences.selected, preferences.filter⟩

/-- Preferences are read back from their written form. -/
theorem readRecord_body (form : Form) (level : Nat) (preferences : Preferences) {rounds : Nat}
    (enough : (form.body level preferences.toJson).length ≤ rounds) (rest : List Char) :
    Json.readRecord (fields rounds) Draft.start rounds
        (form.body level preferences.toJson ++ rest) =
      some (.ofPreferences preferences, rest) := by
  have selectedFits := (form.length_member_le level
    (show ("selected_nodes", Json.array (preferences.selected.map .string)) ∈ _ by
      simp)).trans enough
  have filterFits := (form.length_member_le level
    (show ("filter", preferences.filter.toJson) ∈ _ by simp)).trans enough
  refine form.readRecord_body (distinct_fields rounds) preferences.hasReal_toJson ?_ enough rest
  refine .cons (fun after ends => congrArg (Option.map _) (form.readWord32_body _ _ ends)) ?_
  refine .cons (fun after ends => congrArg (Option.map _) (form.readWord64_body _ _ ends)) ?_
  refine .cons (fun after _ => congrArg (Option.map _) (readPolicy_body form _ _ after)) ?_
  refine .cons (fun after ends => congrArg (Option.map _) (form.readWord64_body _ _ ends)) ?_
  refine .cons (fun after ends => congrArg (Option.map _) (form.readWord64_body _ _ ends)) ?_
  refine .cons (fun after _ =>
    congrArg (Option.map _) (form.readTexts_body _ selectedFits after)) ?_
  refine .cons (fun after _ =>
    congrArg (Option.map _) (SavedFilter.read_body form _ _ filterFits after)) ?_
  exact .nil _

/-- The text of preferences denotes them. -/
theorem decode?_text (preferences : Preferences) : decode? preferences.text = some preferences := by
  have starts := Form.indented.startsValue_body 0 preferences.hasReal_toJson
  have enough : (Json.indented 0 preferences.toJson).length ≤
      2 * (Json.indented 0 preferences.toJson).length + 2 := by omega
  have reads := readRecord_body .indented 0 preferences enough []
  rw [List.append_nil] at reads
  have whole : Json.readWhole (fun rounds => Json.readRecord (fields rounds) Draft.start rounds)
      preferences.text = some (.ofPreferences preferences) :=
    Json.readWhole_ofList starts reads
  rw [decode?, whole]
  rfl

/-! ### Saving and loading -/

/-- What becomes of a tree of files when a text is put into a file by way of another. -/
theorem replaceFile_actions (files : FileTree) (temporary path : String) (content : List UInt8) :
    replaceFile FileTree.actions temporary path content files =
      match files.write temporary content with
      | .error cause => (.error (writingFault temporary cause), files)
      | .ok filled =>
        match filled.renameFile temporary path with
        | .ok renamed => (.ok (), renamed)
        | .error cause =>
          (.error (replacingFault path cause),
            (filled.removeFile temporary).toOption.getD filled) := by
  unfold replaceFile
  rw [bind_state]
  simp only [FileTree.actions]
  cases written : files.write temporary content with
  | error cause =>
    rw [FileTree.perform_of_error written]
    rfl
  | ok filled =>
    rw [FileTree.perform_of_ok written]
    dsimp only
    rw [bind_state]
    cases renames : filled.renameFile temporary path with
    | ok renamed =>
      rw [FileTree.perform_of_ok renames]
      rfl
    | error cause =>
      rw [FileTree.perform_of_error renames]
      dsimp only
      rw [bind_state]
      cases removes : filled.removeFile temporary with
      | ok cleaned =>
        rw [FileTree.perform_of_ok removes]
        rfl
      | error cause =>
        rw [FileTree.perform_of_error removes]
        rfl

/-- Saving makes the directory of the file, and then puts the text into the file. -/
theorem save_eq (preferences : Preferences) (files : FileTree) (path : String) :
    preferences.save files path =
      match makeRoom FileTree.actions path files with
      | (.error fault, room) => (room, .error fault)
      | (.ok (), room) =>
        (replaceFile FileTree.actions (temporaryPath path) path
          (Text.utf8 preferences.text.toList) room).swap := by
  unfold save saveTo
  rw [bind_state]
  rcases makeRoom FileTree.actions path files with ⟨fault | _, room⟩ <;> rfl

/-- If a text was put into a file by way of another, then that one was written and renamed. -/
theorem exists_of_replaceFile {temporary : String} {content : List UInt8}
    (replaced : replaceFile FileTree.actions temporary path content files = (.ok (), after)) :
    ∃ filled, files.write temporary content = .ok filled ∧
      filled.renameFile temporary path = .ok after := by
  rw [replaceFile_actions] at replaced
  split at replaced
  · cases replaced
  · next filled written =>
    split at replaced
    · next renamed =>
      obtain ⟨-, rfl⟩ := Prod.mk.inj replaced
      exact ⟨filled, written, renamed⟩
    · exact nomatch (Prod.mk.inj replaced).1

/-- The text of preferences that were saved is the content of the file. -/
theorem read_of_save (saved : preferences.save files path = (after, .ok ())) :
    after.read path = .ok (Text.utf8 preferences.text.toList) := by
  rw [save_eq] at saved
  split at saved
  · cases saved
  · obtain ⟨filled, written, renamed⟩ := exists_of_replaceFile (Prod.swap_inj.mp saved)
    exact FileTree.read_of_replaced written renamed

/-- A file with the text of preferences gives them if their version is the one in use; of another
version none are given. -/
theorem load_of_read (content : files.read path = .ok (Text.utf8 preferences.text.toList)) :
    load files path =
      if preferences.version = currentVersion then some preferences else none := by
  rw [load, lookUp, content]
  simp only [ofContent, Text.ofUtf8?_utf8, String.ofList_toList, decode?_text]
  split <;> rfl

/-- Preferences that were saved are loaded again if their version is the one in use; of another
version none are loaded. -/
theorem load_save (preferences : Preferences) (files : FileTree) (path : String)
    (saved : (preferences.save files path).2 = .ok ()) :
    load (preferences.save files path).1 path =
      if preferences.version = currentVersion then some preferences else none :=
  load_of_read (read_of_save (Prod.ext_iff.mpr ⟨rfl, saved⟩))

/-- Both paths lead to files with other content before. What is saved has numbers of 64 bits and
texts with escapes. -/
theorem load_save_replacing :
    let files := (((FileTree.empty []).set ["data"] (some .directory)).set
      ["session.json", "data"] (some (.file [0x7b]))).set
      ["session.json.tmp", "data"] (some (.file [0xff]))
    let path := "data/session.json"
    let preferences : Preferences :=
      ⟨1, 18446744073709551615, .retain, 0, 1, ["ns\n\"1\"", "😀"], ⟨["", "ns1"], "\x00", "[\\"⟩⟩
    let older := { preferences with version := 0 }
    files.read path = .ok [0x7b] ∧ files.read (temporaryPath path) = .ok [0xff] ∧
      (preferences.save files path).2 = .ok () ∧
      load (preferences.save files path).1 path = some preferences ∧
      (older.save files path).2 = .ok () ∧
      load (older.save files path).1 path = none := by
  intro files path preferences older
  have saved : (preferences.save files path).2 = .ok () := by decide +kernel
  have savedOlder : (older.save files path).2 = .ok () := by decide +kernel
  refine ⟨by decide +kernel, by decide +kernel, saved, ?_, savedOlder, ?_⟩
  · exact (load_save preferences files path saved).trans (if_pos rfl)
  · exact (load_save older files path savedOlder).trans (if_neg (by decide))

end Preferences

end QueryTail
