import QueryTail.Json.Record
import QueryTail.Proofs.Json.Form

/-!
# Records read back

An object that has one member for each field of a record, in the order of the fields, is read back
if every field reads what is written of its member (`Form.readRecord_body`). The fields themselves
read strings, lists of strings and words back.
-/

namespace QueryTail.Json

variable {σ : Type} {fields earlier later : List (RecordField σ)} {field : RecordField σ}
  {record start next last : σ} {members : List (String × Json)} {body : Json → List Char}
  {rounds level : Nat} {rest : List Char}

/-! ### Fields and their members -/

/-- Each field reads the written value of the member that has its name, whatever follows it but what
goes on with a number; one after the other they get from a first record to a last one. -/
inductive FieldsRead (body : Json → List Char) :
    σ → List (RecordField σ) → List (String × Json) → σ → Prop
  | nil (record : σ) : FieldsRead body record [] [] record
  | cons {record next last : σ} {field : RecordField σ} {value : Json}
      {later : List (RecordField σ)} {members : List (String × Json)}
      (reads : ∀ after, endsNumber after = true →
        field.read record (body value ++ after) = some (next, after))
      (others : FieldsRead body next later members last) :
      FieldsRead body record (field :: later) ((field.name, value) :: members) last

/-- A field is found by its name, if no field before it has the same name. -/
theorem find?_name (fresh : field.name ∉ earlier.map RecordField.name)
    (later : List (RecordField σ)) :
    ((earlier ++ field :: later).find? fun other => other.name == field.name) = some field := by
  have none : (earlier.find? fun other => other.name == field.name) = none := by
    refine List.find?_eq_none.mpr fun other among same => fresh ?_
    rw [← beq_iff_eq.mp same]
    exact List.mem_map_of_mem among
  rw [List.find?_append, none, Option.none_or]
  exact List.find?_cons_of_pos (beq_self_eq_true field.name)

/-- A member is read into the field of its name, the first time. -/
theorem readMember_field {text : List Char}
    (fresh : field.name ∉ earlier.map RecordField.name)
    (reads : field.read record text = some (next, rest)) :
    readMember (earlier ++ field :: later) rounds
        (record, (earlier.map RecordField.name).reverse) field.name text =
      some ((next, field.name :: (earlier.map RecordField.name).reverse), rest) := by
  have unseen : (earlier.map RecordField.name).reverse.contains field.name = false := by
    simpa using fresh
  simp only [readMember, find?_name fresh later, unseen, reads, Bool.false_eq_true, if_false,
    Option.map_some]

/-- If the names are distinct, the members of an object are read into the fields. -/
theorem FieldsRead.membersRead (reads : FieldsRead body record later members last) (rounds : Nat)
    (earlier : List (RecordField σ))
    (distinct : ((earlier ++ later).map RecordField.name).Nodup) :
    MembersRead (readMember (earlier ++ later) rounds) body
      (record, (earlier.map RecordField.name).reverse) members
      (last, ((earlier ++ later).map RecordField.name).reverse) := by
  -- The fields before the member are those whose names were seen.
  induction reads generalizing earlier with
  | nil record =>
    rw [List.append_nil]
    exact .nil _
  | @cons record next last field value later members reads others ih =>
    have fresh : field.name ∉ earlier.map RecordField.name := by
      rw [List.map_append, List.map_cons, List.nodup_append] at distinct
      exact fun among => distinct.2.2 _ among _ List.mem_cons_self rfl
    have same : earlier ++ field :: later = (earlier ++ [field]) ++ later := by
      rw [List.append_assoc, List.singleton_append]
    refine .cons (fun after ends => readMember_field fresh (reads after ends)) ?_
    rw [same] at distinct ⊢
    have onward := ih (earlier ++ [field]) distinct
    rwa [List.map_append, List.reverse_append] at onward

namespace Form

/-- A record is read back from the written form of an object with a member for each field. -/
theorem readRecord_body (form : Form) (distinct : (fields.map RecordField.name).Nodup)
    (whole : membersHaveReal members = false)
    (reads : FieldsRead (form.body (level + 1)) start fields members last)
    (enough : (form.body level (.object members)).length ≤ rounds) (rest : List Char) :
    readRecord fields start rounds (form.body level (.object members) ++ rest) =
      some (last, rest) := by
  have each := reads.membersRead rounds [] distinct
  obtain ⟨inside, written, folds⟩ := form.foldObject_body whole each
    ((form.length_members_le level members).trans enough) rest
  rw [written, readRecord]
  exact congrArg (Option.map _) folds

/-! ### Values of fields -/

/-- A text is read back from its written form. -/
theorem readText_body (form : Form) (level : Nat) (text : String) (rest : List Char) :
    readText (form.body level (.string text) ++ rest) = some (text, rest) := by
  rw [form.scalar _ _ rfl, Json.compact, quote_append]
  exact readString_quoted text

/-- A list of texts is read back from its written form, in as many rounds as that is long. -/
theorem readTexts_body (form : Form) (level : Nat) {texts : List String}
    (enough : (form.body level (.array (texts.map .string))).length ≤ rounds)
    (rest : List Char) :
    readTexts rounds (form.body level (.array (texts.map .string)) ++ rest) =
      some (texts, rest) := by
  have count := form.length_items_le level (texts.map .string)
  rw [List.length_map] at count
  obtain ⟨inside, written, folds⟩ := form.foldArray_body
    (fun found text => (readText text).map fun read => (read.1 :: found, read.2))
    (fun found text => text :: found) .string (fun _ _ => rfl)
    (fun found text _ after _ => by rw [form.readText_body, Option.map_some])
    (count.trans enough) [] rest
  rw [written, readTexts]
  dsimp only
  rw [folds]
  simp

/-- A number below the bound is read back from its written form. -/
theorem readBelow_body (form : Form) (level : Nat) {bound n : Nat} (below : n < bound)
    (isWord : n ≤ Numeral.maxWord) (ends : endsNumber rest = true) :
    readBelow bound (form.body level (.natural n) ++ rest) = some (n, rest) := by
  have inRange : (Number.integer n).InRange := by
    unfold Number.InRange
    omega
  have reads := readScalar_integer inRange ends
  rw [form.scalar _ _ rfl, natural, Json.compact, readBelow, reads]
  simp [below]

/-- A number of 64 bits is read back from its written form. -/
theorem readWord64_body (form : Form) (level : Nat) (word : UInt64)
    (ends : endsNumber rest = true) :
    readWord64 (form.body level (.natural word.toNat) ++ rest) = some (word, rest) := by
  have below := word.toNat_lt
  rw [readWord64, form.readBelow_body level below (Nat.le_of_lt_succ below) ends]
  simp

/-- A number of 32 bits is read back from its written form. -/
theorem readWord32_body (form : Form) (level : Nat) (word : UInt32)
    (ends : endsNumber rest = true) :
    readWord32 (form.body level (.natural word.toNat) ++ rest) = some (word, rest) := by
  have below := word.toNat_lt
  have isWord : word.toNat ≤ Numeral.maxWord := by
    unfold Numeral.maxWord
    omega
  rw [readWord32, form.readBelow_body level below isWord ends]
  simp

end Form

end QueryTail.Json
