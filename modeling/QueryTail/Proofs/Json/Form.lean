import QueryTail.Proofs.Json.Readable

/-!
# Written forms of JSON

The compact form and the indented form differ in white space only. A `Form` is any way of writing
values that puts white space in front of the parts of a container and of its closing bracket, and
after colons. Whatever the form, a readable value without doubles is read back
(`Form.readValue_body`), and a reader that goes through a container with a step of its own gets to
see what was written of each part (`Form.foldArray_body`, `Form.foldObject_body`).
-/

namespace QueryTail.Json

variable {rounds depth level : Nat} {value : Json} {items : List Json} {members : Members}
  {text rest : List Char}

/-! ### White space -/

/-- There is nothing but white space in the text. -/
def IsSpace (text : List Char) : Prop :=
  ∀ c ∈ text, (c = ' ' || c = '\n' || c = '\t' || c = '\r') = true

/-- No text at all is white space. -/
theorem isSpace_nil : IsSpace [] :=
  fun _ => nofun

/-- A single space is white space. -/
theorem isSpace_space : IsSpace [' '] :=
  List.forall_mem_singleton.mpr rfl

/-- White space in front is skipped. -/
theorem skipSpace_append (space : IsSpace text) (rest : List Char) :
    skipSpace (text ++ rest) = skipSpace rest :=
  List.dropWhile_append_of_pos space

/-- White space ends a number, and so does what ends one behind it. -/
theorem endsNumber_append (space : IsSpace text) (ends : endsNumber rest = true) :
    endsNumber (text ++ rest) = true := by
  cases text with
  | nil => exact ends
  | cons c text =>
    have blank := space c List.mem_cons_self
    simp only [Bool.or_eq_true, decide_eq_true_eq] at blank
    rcases blank with ((rfl | rfl) | rfl) | rfl <;> rfl

/-- A new line with its indentation is white space. -/
theorem isSpace_newLine (level : Nat) : IsSpace (newLine level) := by
  intro c among
  rcases List.mem_cons.mp among with rfl | among
  · rfl
  · rw [List.eq_of_mem_replicate among]
    rfl

/-! ### Forms -/

/-- A way of writing values. Scalars are written as in the compact form; of a container the parts
are written at the next level, with white space in front of each of them. -/
structure Form where
  /-- What is written of a value that stands at a level. -/
  body : Nat → Json → List Char
  /-- What stands in front of the parts at a level. -/
  lead : Nat → List Char
  /-- What stands between a colon and the value. -/
  gap : List Char
  isSpace_lead : ∀ level, IsSpace (lead level)
  isSpace_gap : IsSpace gap
  scalar : ∀ level value, value.nesting = 0 → body level value = value.compact
  array : ∀ level items, ∃ closing, IsSpace closing ∧ body level (.array items) =
    '[' :: ([','].intercalate (items.map (lead (level + 1) ++ body (level + 1) ·)) ++
      (closing ++ [']']))
  object : ∀ level members, ∃ closing, IsSpace closing ∧ body level (.object members) =
    '{' :: ([','].intercalate
        (members.map (writtenMember (lead (level + 1)) gap (body (level + 1)))) ++
      (closing ++ ['}']))

namespace Form

/-! ### The size of what is written -/

/-- An array has at least as many characters as items. -/
theorem length_items_le (form : Form) (level : Nat) (items : List Json) :
    items.length ≤ (form.body level (.array items)).length := by
  obtain ⟨closing, -, written⟩ := form.array level items
  have count := length_le_intercalate (items.map (form.lead (level + 1) ++ form.body (level + 1) ·))
  rw [List.length_map] at count
  rw [written]
  simp only [List.length_cons, List.length_append]
  omega

/-- An item is no longer than its array. -/
theorem length_item_le (form : Form) (level : Nat) {item : Json} (among : item ∈ items) :
    (form.body (level + 1) item).length ≤ (form.body level (.array items)).length := by
  obtain ⟨closing, -, written⟩ := form.array level items
  have shorter := length_le_intercalate_of_mem
    (List.mem_map_of_mem (f := (form.lead (level + 1) ++ form.body (level + 1) ·)) among)
  rw [List.length_append] at shorter
  rw [written]
  simp only [List.length_cons, List.length_append]
  omega

/-- An object has at least as many characters as members. -/
theorem length_members_le (form : Form) (level : Nat) (members : List (String × Json)) :
    members.length ≤ (form.body level (.object members)).length := by
  obtain ⟨closing, -, written⟩ := form.object level members
  have count := length_le_intercalate
    (members.map (writtenMember (form.lead (level + 1)) form.gap (form.body (level + 1))))
  rw [List.length_map] at count
  rw [written]
  simp only [List.length_cons, List.length_append]
  omega

/-- The value of a member is no longer than the object. -/
theorem length_member_le (form : Form) (level : Nat) {member : String × Json}
    (among : member ∈ members) :
    (form.body (level + 1) member.2).length ≤ (form.body level (.object members)).length := by
  obtain ⟨closing, -, written⟩ := form.object level members
  have shorter := length_le_intercalate_of_mem (List.mem_map_of_mem
    (f := writtenMember (form.lead (level + 1)) form.gap (form.body (level + 1))) among)
  simp only [writtenMember, List.length_append, List.length_cons] at shorter
  rw [written]
  simp only [List.length_cons, List.length_append]
  omega

/-! ### Reading containers -/

/-- What is written for a value without doubles starts as a value does. -/
theorem startsValue_body (form : Form) (level : Nat) (whole : value.hasReal = false) :
    startsValue (form.body level value) = true := by
  cases value with
  | null =>
    rw [form.scalar _ _ rfl]
    rfl
  | bool value =>
    rw [form.scalar _ _ rfl]
    cases value <;> rfl
  | string value =>
    rw [form.scalar _ _ rfl]
    rfl
  | number number =>
    cases number with
    | real value => cases whole
    | integer value =>
      obtain ⟨first, others, parts, numeric⟩ := exists_text_cons value
      rw [form.scalar _ _ rfl, compact, parts]
      exact startsValue_of_numeric numeric
  | array items =>
    obtain ⟨closing, -, written⟩ := form.array level items
    rw [written]
    rfl
  | object members =>
    obtain ⟨closing, -, written⟩ := form.object level members
    rw [written]
    rfl

section Folds

variable {σ Item : Type}

/-- A step that reads what is written of each item reads an array of them. -/
theorem foldArray_body (form : Form) (step : σ → List Char → Option (σ × List Char))
    (push : σ → Item → σ) (valueOf : Item → Json) {parts : List Item}
    (whole : ∀ part ∈ parts, (valueOf part).hasReal = false)
    (reads : ∀ state, ∀ part ∈ parts, ∀ after, endsNumber after = true →
      step state (form.body (level + 1) (valueOf part) ++ after) = some (push state part, after))
    (enough : parts.length ≤ rounds) (state : σ) (rest : List Char) :
    ∃ inside, form.body level (.array (parts.map valueOf)) ++ rest = '[' :: inside ∧
      foldArray step rounds state inside = some (parts.foldl push state, rest) := by
  obtain ⟨closing, space, written⟩ := form.array level (parts.map valueOf)
  have starts : ∀ part ∈ parts, startsValue (form.body (level + 1) (valueOf part)) = true :=
    fun part among => form.startsValue_body _ (whole part among)
  rw [written, List.map_map, List.cons_append, List.append_assoc, List.append_assoc]
  exact ⟨_, rfl, foldArray_written (skipSpace_append (form.isSpace_lead _))
    (skipSpace_append space _) (endsNumber_append space rfl) starts reads enough state⟩

/-- A step that reads what is written of the members, one after the other, reads an object of
them. -/
theorem foldObject_body (form : Form) {step : σ → String → List Char → Option (σ × List Char)}
    {state last : σ} (whole : membersHaveReal members = false)
    (reads : MembersRead step (form.body (level + 1)) state members last)
    (enough : members.length ≤ rounds) (rest : List Char) :
    ∃ inside, form.body level (.object members) ++ rest = '{' :: inside ∧
      foldObject step rounds state inside = some (last, rest) := by
  obtain ⟨closing, space, written⟩ := form.object level members
  rw [membersHaveReal_eq_false_iff] at whole
  have starts : ∀ member ∈ members, startsValue (form.body (level + 1) member.2) = true :=
    fun member among => form.startsValue_body _ (whole member among)
  rw [written, List.cons_append, List.append_assoc, List.append_assoc]
  exact ⟨_, rfl, foldObject_written (skipSpace_append (form.isSpace_lead _))
    (skipSpace_append form.isSpace_gap) (skipSpace_append space _) (endsNumber_append space rfl)
    starts reads enough⟩

end Folds

end Form

/-! ### Reading values -/

/-- What opens no container is read as a scalar. -/
theorem readValue_cons {c : Char} (noArray : c ≠ '[') (noObject : c ≠ '{') :
    readValue rounds depth (c :: rest) = readScalar (c :: rest) := by
  rw [readValue.eq_def]
  split
  · next same => exact absurd (List.cons.inj same).1 noArray
  · next same => exact absurd (List.cons.inj same).1 noObject
  · rfl

/-- A whole number is read back as a value. -/
theorem readValue_integer {value : Int} (inRange : (Number.integer value).InRange)
    (ends : endsNumber rest = true) :
    readValue rounds depth ((Number.integer value).text ++ rest) =
      some (.number (.integer value), rest) := by
  have reads := readScalar_integer inRange ends
  obtain ⟨first, others, parts, numeric⟩ := exists_text_cons value
  rw [parts, List.cons_append] at reads ⊢
  rw [readValue_cons (ne_of_numeric numeric (by decide) rfl)
    (ne_of_numeric numeric (by decide) rfl), reads]

/-- A readable value without doubles is read back from its written form, whatever follows it but
what goes on with a number. -/
theorem Form.readValue_body (form : Form) (readable : Readable depth value)
    (whole : value.hasReal = false) (enough : (form.body level value).length ≤ rounds)
    (ends : endsNumber rest = true) :
    readValue rounds depth (form.body level value ++ rest) = some (value, rest) := by
  -- The rounds do not change on the way down: a part is written no longer than the whole.
  induction readable generalizing level rest with
  | null =>
    rw [form.scalar _ _ rfl]
    exact readValue_cons (by decide) (by decide)
  | bool value =>
    rw [form.scalar _ _ rfl]
    cases value with
    | false => exact readValue_cons (by decide) (by decide)
    | true => exact readValue_cons (by decide) (by decide)
  | string value =>
    rw [form.scalar _ _ rfl, compact, quote_append, readValue_cons (by decide) (by decide),
      ← quote_append, readScalar_quote]
  | @number _ number inRange =>
    cases number with
    | real value => cases whole
    | integer value =>
      rw [form.scalar _ _ rfl, compact]
      exact readValue_integer inRange ends
  | @array depth items each ih =>
    rw [hasReal, itemsHaveReal_eq_false_iff] at whole
    obtain ⟨inside, written, folds⟩ := form.foldArray_body
      (fun found text => (readValue rounds depth text).map fun read => (read.1 :: found, read.2))
      (fun found item => item :: found) id whole
      (fun found item among after ends => by
        have shorter := form.length_item_le level among
        rw [id_eq, ih item among (whole item among) (shorter.trans enough) ends, Option.map_some])
      ((form.length_items_le level items).trans enough) [] rest
    rw [List.map_id] at written
    rw [written, readValue]
    dsimp only
    rw [folds]
    simp
  | @object depth members ascending each ih =>
    rw [hasReal] at whole
    have single := membersHaveReal_eq_false_iff.mp whole
    have reads := membersRead_foldl
      (fun found name text =>
        (readValue rounds depth text).map fun read => (Members.insert name read.1 found, read.2))
      (form.body (level + 1)) (fun found member => Members.insert member.1 member.2 found)
      (fun found member among after ends => by
        have shorter := form.length_member_le level among
        rw [ih member among (single member among) (shorter.trans enough) ends, Option.map_some])
      []
    obtain ⟨inside, written, folds⟩ := form.foldObject_body whole reads
      ((form.length_members_le level members).trans enough) rest
    have same : Members.ofList members = members := Members.ofList_of_ascending ascending
    rw [written, readValue]
    dsimp only
    rw [folds, Option.map_some]
    exact congrArg (fun held => some (Json.object held, rest)) same

/-! ### The compact form -/

/-- Compact items are written with commas in between and nothing else. -/
theorem compactItems_eq (items : List Json) :
    compactItems items = [','].intercalate (items.map ([] ++ compact ·)) := by
  induction items with
  | nil => rfl
  | cons item items ih =>
    cases items with
    | nil => simp [compactItems]
    | cons second items =>
      rw [compactItems, ih]
      · simp [List.intercalate_cons_cons]
      · exact List.cons_ne_nil _ _

/-- Compact members are written with commas in between and nothing else. -/
theorem compactMembers_eq (members : List (String × Json)) :
    compactMembers members = [','].intercalate (members.map (writtenMember [] [] compact)) := by
  induction members with
  | nil => rfl
  | cons member members ih =>
    cases members with
    | nil => simp [compactMembers, writtenMember]
    | cons second members =>
      rw [compactMembers, ih]
      · simp [List.intercalate_cons_cons, writtenMember]
      · exact List.cons_ne_nil _ _

/-- The compact form has no white space. -/
def Form.compact : Form where
  body _ := Json.compact
  lead _ := []
  gap := []
  isSpace_lead _ := isSpace_nil
  isSpace_gap := isSpace_nil
  scalar _ _ _ := rfl
  array _ items := by
    refine ⟨[], isSpace_nil, ?_⟩
    rw [Json.compact, compactItems_eq]
    rfl
  object _ members := by
    refine ⟨[], isSpace_nil, ?_⟩
    rw [Json.compact, compactMembers_eq]
    rfl

/-! ### The indented form -/

/-- Indented items are written on lines of their own, with commas in between. -/
theorem indentedItems_eq (level : Nat) (items : List Json) :
    indentedItems level items =
      [','].intercalate (items.map (newLine level ++ indented level ·)) := by
  induction items with
  | nil => rfl
  | cons item items ih =>
    cases items with
    | nil => simp [indentedItems]
    | cons second items =>
      rw [indentedItems, ih]
      · simp [List.intercalate_cons_cons]
      · exact List.cons_ne_nil _ _

/-- Indented members are written on lines of their own, with commas in between. -/
theorem indentedMembers_eq (level : Nat) (members : List (String × Json)) :
    indentedMembers level members =
      [','].intercalate (members.map (writtenMember (newLine level) [' '] (indented level))) := by
  induction members with
  | nil => rfl
  | cons member members ih =>
    cases members with
    | nil => simp [indentedMembers, writtenMember]
    | cons second members =>
      rw [indentedMembers, ih]
      · simp [List.intercalate_cons_cons, writtenMember]
      · exact List.cons_ne_nil _ _

/-- A scalar is written the same in both forms. -/
theorem indented_of_nesting_eq_zero (level : Nat) (scalar : value.nesting = 0) :
    indented level value = value.compact := by
  cases value with
  | array items => cases scalar
  | object members => cases scalar
  | _ => rfl

/-- In the indented form every part of a container stands on a line of its own, two spaces further
in; an empty container is written as in the compact form. -/
def Form.indented : Form where
  body := Json.indented
  lead := newLine
  gap := [' ']
  isSpace_lead := isSpace_newLine
  isSpace_gap := isSpace_space
  scalar level value scalar := indented_of_nesting_eq_zero level scalar
  array level items := by
    cases items with
    | nil => exact ⟨[], isSpace_nil, rfl⟩
    | cons first others =>
      refine ⟨newLine level, isSpace_newLine level, ?_⟩
      rw [Json.indented, indentedItems_eq, List.append_assoc]
  object level members := by
    cases members with
    | nil => exact ⟨[], isSpace_nil, rfl⟩
    | cons first others =>
      refine ⟨newLine level, isSpace_newLine level, ?_⟩
      rw [Json.indented, indentedMembers_eq, List.append_assoc]

end QueryTail.Json
