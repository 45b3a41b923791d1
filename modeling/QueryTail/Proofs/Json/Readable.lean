import QueryTail.Proofs.Json.Container

/-!
# What the JSON reader gives

Whatever the reader gives is `Readable`: its whole numbers fit 64 bits, its members are in order,
and its containers are not nested too deeply (`readable_readValue`). How deeply they are nested is
all that changes with the place where a value stands (`Readable.of_nesting_le`).
-/

namespace QueryTail.Json

variable {rounds depth : Nat} {value : Json} {items : List Json} {members : Members}
  {text rest : List Char}

/-! ### What the reader gives -/

/-- A value that the reader can give where at most `depth` containers may enclose one another. -/
inductive Readable : Nat → Json → Prop
  | null {depth : Nat} : Readable depth .null
  | bool {depth : Nat} (value : Bool) : Readable depth (.bool value)
  | number {depth : Nat} {number : Number} (inRange : number.InRange) :
      Readable depth (.number number)
  | string {depth : Nat} (value : String) : Readable depth (.string value)
  | array {depth : Nat} {items : List Json} (each : ∀ item ∈ items, Readable depth item) :
      Readable (depth + 1) (.array items)
  | object {depth : Nat} {members : Members} (ascending : members.Ascending)
      (each : ∀ member ∈ members, Readable depth member.2) : Readable (depth + 1) (.object members)

/-- A scalar that was read is readable at any depth. -/
theorem readable_readScalar (reads : readScalar text = some (value, rest)) :
    Readable depth value := by
  unfold readScalar at reads
  split at reads
  · obtain ⟨_, -, same⟩ := Option.map_eq_some_iff.mp reads
    obtain ⟨rfl, -⟩ := Prod.mk.inj same
    exact .string _
  · obtain ⟨_, -, same⟩ := Option.map_eq_some_iff.mp reads
    obtain ⟨rfl, -⟩ := Prod.mk.inj same
    exact .null
  · obtain ⟨_, -, same⟩ := Option.map_eq_some_iff.mp reads
    obtain ⟨rfl, -⟩ := Prod.mk.inj same
    exact .bool true
  · obtain ⟨_, -, same⟩ := Option.map_eq_some_iff.mp reads
    obtain ⟨rfl, -⟩ := Prod.mk.inj same
    exact .bool false
  · obtain ⟨⟨numeral, after⟩, -, reads⟩ := Option.bind_eq_some_iff.mp reads
    obtain ⟨number, denotes, same⟩ := Option.bind_eq_some_iff.mp reads
    obtain ⟨rfl, -⟩ := Prod.mk.inj (Option.some.inj same)
    exact .number (Numeral.inRange_of_value denotes)

/-- Whatever the reader gives is readable. -/
theorem readable_readValue (reads : readValue rounds depth text = some (value, rest)) :
    Readable depth value := by
  induction depth generalizing text value rest with
  | zero =>
    unfold readValue at reads
    split at reads
    · cases reads
    · cases reads
    · exact readable_readScalar reads
  | succ depth ih =>
    unfold readValue at reads
    split at reads
    · obtain ⟨⟨found, after⟩, folds, same⟩ := Option.map_eq_some_iff.mp reads
      obtain ⟨rfl, -⟩ := Prod.mk.inj same
      have each : ∀ item ∈ found, Readable depth item := by
        refine foldArray_keeps (motive := fun found => ∀ item ∈ found, Readable depth item)
          ?_ folds (fun _ none => absurd none List.not_mem_nil)
        intro found text next rest stepped each
        obtain ⟨⟨item, _⟩, read, same⟩ := Option.map_eq_some_iff.mp stepped
        obtain ⟨rfl, -⟩ := Prod.mk.inj same
        exact List.forall_mem_cons.mpr ⟨ih read, each⟩
      exact .array fun item among => each item (List.mem_reverse.mp among)
    · obtain ⟨⟨found, after⟩, folds, same⟩ := Option.map_eq_some_iff.mp reads
      obtain ⟨rfl, -⟩ := Prod.mk.inj same
      have kept : found.Ascending ∧ ∀ member ∈ found, Readable depth member.2 := by
        refine foldObject_keeps
          (motive := fun found =>
            Members.Ascending found ∧ ∀ member ∈ found, Readable depth member.2)
          ?_ folds ⟨List.Pairwise.nil, fun _ none => absurd none List.not_mem_nil⟩
        rintro found name text next rest stepped ⟨ascending, each⟩
        obtain ⟨⟨value, _⟩, read, same⟩ := Option.map_eq_some_iff.mp stepped
        obtain ⟨rfl, -⟩ := Prod.mk.inj same
        refine ⟨Members.ascending_insert name value ascending, fun member among => ?_⟩
        rcases Members.eq_or_mem_of_mem_insert among with rfl | among
        · exact ih read
        · exact each member among
      exact .object kept.1 kept.2
    · exact readable_readScalar reads

/-! ### Doubles -/

mutual

/-- A value is a double, or there is one in it. -/
def hasReal : Json → Bool
  | .number (.real _) => true
  | .array items => itemsHaveReal items
  | .object members => membersHaveReal members
  | _ => false

/-- There is a double in one of some items. -/
def itemsHaveReal : List Json → Bool
  | [] => false
  | item :: rest => hasReal item || itemsHaveReal rest

/-- There is a double in the value of one of some members. -/
def membersHaveReal : List (String × Json) → Bool
  | [] => false
  | (_, value) :: rest => hasReal value || membersHaveReal rest

end

/-- Items have no double when none of them has one. -/
theorem itemsHaveReal_eq_false_iff :
    itemsHaveReal items = false ↔ ∀ item ∈ items, item.hasReal = false := by
  induction items with
  | nil => simp [itemsHaveReal]
  | cons item items ih => simp [itemsHaveReal, ih]

/-- Members have no double when none of their values has one. -/
theorem membersHaveReal_eq_false_iff :
    membersHaveReal members = false ↔ ∀ member ∈ members, member.2.hasReal = false := by
  induction members with
  | nil => simp [membersHaveReal]
  | cons member members ih =>
    obtain ⟨name, value⟩ := member
    rw [membersHaveReal, Bool.or_eq_false_iff, ih, List.forall_mem_cons]

/-! ### Nesting -/

mutual

/-- How many containers enclose one another in a value at most. -/
def nesting : Json → Nat
  | .array items => itemsNesting items + 1
  | .object members => membersNesting members + 1
  | _ => 0

/-- The greatest nesting of some items. -/
def itemsNesting : List Json → Nat
  | [] => 0
  | item :: rest => max (nesting item) (itemsNesting rest)

/-- The greatest nesting of the values of some members. -/
def membersNesting : List (String × Json) → Nat
  | [] => 0
  | (_, value) :: rest => max (nesting value) (membersNesting rest)

end

/-- Items are nested as deep as the deepest of them. -/
theorem itemsNesting_le_iff :
    itemsNesting items ≤ depth ↔ ∀ item ∈ items, item.nesting ≤ depth := by
  induction items with
  | nil => simp [itemsNesting]
  | cons item items ih => rw [itemsNesting, max_le_iff, ih, List.forall_mem_cons]

/-- Members are nested as deep as the deepest of their values. -/
theorem membersNesting_le_iff :
    membersNesting members ≤ depth ↔ ∀ member ∈ members, member.2.nesting ≤ depth := by
  induction members with
  | nil => simp [membersNesting]
  | cons member members ih =>
    obtain ⟨name, value⟩ := member
    rw [membersNesting, max_le_iff, ih, List.forall_mem_cons]

/-- A value that can be read at one place can be read wherever there is room for its containers. -/
theorem Readable.of_nesting_le {room : Nat} (readable : Readable depth value)
    (fits : value.nesting ≤ room) : Readable room value := by
  induction readable generalizing room with
  | null => exact .null
  | bool value => exact .bool value
  | number inRange => exact .number inRange
  | string value => exact .string value
  | @array depth items each ih =>
    rw [nesting] at fits
    obtain ⟨room, rfl⟩ : ∃ less, room = less + 1 :=
      Nat.exists_eq_succ_of_ne_zero (Nat.ne_zero_of_lt fits)
    have inside := itemsNesting_le_iff.mp (Nat.le_of_succ_le_succ fits)
    exact .array fun item among => ih item among (inside item among)
  | @object depth members ascending each ih =>
    rw [nesting] at fits
    obtain ⟨room, rfl⟩ : ∃ less, room = less + 1 :=
      Nat.exists_eq_succ_of_ne_zero (Nat.ne_zero_of_lt fits)
    have inside := membersNesting_le_iff.mp (Nat.le_of_succ_le_succ fits)
    exact .object ascending fun member among => ih member among (inside member among)

end QueryTail.Json
