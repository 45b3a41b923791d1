import Mathlib.Data.String.Basic
import QueryTail.Proofs.Json.Scalar

/-!
# Reading back what was written: containers

The readers of containers fold a step over what a container holds. If the step reads each item as it
was written, then the fold reads all of them, with commas in between and with white space in front
of them (`foldArray_written`, `foldObject_written`). What a step keeps, the fold keeps
(`foldArray_keeps`, `foldObject_keeps`).

The members of an object are in ascending order of their names, and such members are the object that
is made of them (`Members.ofList_of_ascending`).
-/

namespace QueryTail.Json

variable {σ : Type} {rounds : Nat} {state next last : σ} {text after later rest : List Char}

/-- Texts with commas in between start with the first of them. -/
theorem exists_intercalate_cons (first : List Char) (others : List (List Char)) :
    ∃ more, [','].intercalate (first :: others) = first ++ more := by
  cases others with
  | nil => exact ⟨[], by rw [List.intercalate_singleton, List.append_nil]⟩
  | cons second others => exact ⟨_, by rw [List.intercalate_cons_cons, List.append_assoc]⟩

/-- A text among others is no longer than all of them with commas in between. -/
theorem length_le_intercalate_of_mem {texts : List (List Char)} (among : text ∈ texts) :
    text.length ≤ ([','].intercalate texts).length := by
  induction texts with
  | nil => cases among
  | cons first others ih =>
    cases others with
    | nil =>
      obtain rfl := List.mem_singleton.mp among
      rw [List.intercalate_singleton]
    | cons second others =>
      rw [List.intercalate_cons_cons, List.length_append, List.length_append]
      rcases List.mem_cons.mp among with rfl | among
      · omega
      · have shorter := ih among
        omega

/-- There are as many texts as commas between them, and one more. -/
theorem length_le_intercalate (texts : List (List Char)) :
    texts.length ≤ ([','].intercalate texts).length + 1 := by
  induction texts with
  | nil => exact Nat.zero_le _
  | cons first others ih =>
    cases others with
    | nil => exact Nat.succ_le_succ (Nat.zero_le _)
    | cons second others =>
      rw [List.intercalate_cons_cons, List.length_cons, List.length_append, List.length_append,
        List.length_singleton]
      omega

/-! ### Arrays -/

section Arrays

variable {step : σ → List Char → Option (σ × List Char)}

/-- After an item and a comma, the items behind the comma are read. -/
theorem foldItems_comma (reads : step state (skipSpace text) = some (next, after))
    (comma : skipSpace after = ',' :: later) :
    foldItems step (rounds + 1) state text = foldItems step rounds next later := by
  simp only [foldItems, reads, comma]

/-- After an item and a closing bracket, the items are complete. -/
theorem foldItems_close (reads : step state (skipSpace text) = some (next, after))
    (closes : skipSpace after = ']' :: rest) :
    foldItems step (rounds + 1) state text = some (next, rest) := by
  simp only [foldItems, reads, closes]

/-- White space in front of the items does not matter. -/
theorem foldItems_skipSpace (step : σ → List Char → Option (σ × List Char)) (rounds : Nat)
    (state : σ) (text : List Char) :
    foldItems step rounds state (skipSpace text) = foldItems step rounds state text := by
  cases rounds with
  | zero => rfl
  | succ rounds => rw [foldItems, foldItems, skipSpace_skipSpace]

variable {Item : Type} {items : List Item} {lead closing : List Char} {body : Item → List Char}
  {push : σ → Item → σ}

/-- Items that are written with commas in between are read one after the other, if there is one at
least. -/
theorem foldItems_written (blank : ∀ text, skipSpace (lead ++ text) = skipSpace text)
    (closes : skipSpace closing = ']' :: rest) (ends : endsNumber closing = true)
    (starts : ∀ item ∈ items, startsValue (body item) = true)
    (reads : ∀ state, ∀ item ∈ items, ∀ after, endsNumber after = true →
      step state (body item ++ after) = some (push state item, after))
    (present : items ≠ []) (enough : items.length ≤ rounds) :
    foldItems step rounds state ([','].intercalate (items.map (lead ++ body ·)) ++ closing) =
      some (items.foldl push state, rest) := by
  induction items generalizing state rounds with
  | nil => exact absurd rfl present
  | cons item items ih =>
    obtain ⟨rounds, rfl⟩ : ∃ fewer, rounds = fewer + 1 :=
      Nat.exists_eq_succ_of_ne_zero (Nat.ne_zero_of_lt enough)
    -- What follows the first item is a comma or the closing; neither goes on with a number.
    have first : ∀ after, endsNumber after = true →
        step state (skipSpace ((lead ++ body item) ++ after)) = some (push state item, after) := by
      intro after ends
      have visible := startsValue_append (starts item List.mem_cons_self) after
      rw [List.append_assoc, blank, skipSpace_of_startsValue visible]
      exact reads state item List.mem_cons_self after ends
    cases items with
    | nil =>
      rw [List.map_singleton, List.intercalate_singleton]
      exact foldItems_close (first closing ends) closes
    | cons second items =>
      rw [List.map_cons, List.map_cons, List.intercalate_cons_cons, List.append_assoc,
        List.append_assoc (lead ++ body item), foldItems_comma (first _ rfl) rfl]
      exact ih (fun item among => starts item (List.mem_cons_of_mem _ among))
        (fun state item among => reads state item (List.mem_cons_of_mem _ among))
        (List.cons_ne_nil _ _) (Nat.le_of_succ_le_succ enough)

/-- An array that does not close at once has an item. -/
theorem foldArray_of_startsValue (starts : startsValue (skipSpace text) = true) :
    foldArray step rounds state text = foldItems step rounds state text := by
  unfold foldArray
  split
  · next rest closes =>
    rw [closes] at starts
    cases starts
  · exact foldItems_skipSpace step rounds state text

/-- Items that are written with commas in between are read one after the other, if the step reads
each of them. White space may stand in front of every item and of the closing bracket. -/
theorem foldArray_written (blank : ∀ text, skipSpace (lead ++ text) = skipSpace text)
    (closes : skipSpace closing = ']' :: rest) (ends : endsNumber closing = true)
    (starts : ∀ item ∈ items, startsValue (body item) = true)
    (reads : ∀ state, ∀ item ∈ items, ∀ after, endsNumber after = true →
      step state (body item ++ after) = some (push state item, after))
    (enough : items.length ≤ rounds) (state : σ) :
    foldArray step rounds state ([','].intercalate (items.map (lead ++ body ·)) ++ closing) =
      some (items.foldl push state, rest) := by
  cases items with
  | nil =>
    rw [List.map_nil, List.intercalate_nil, List.nil_append, foldArray, closes]
    rfl
  | cons item items =>
    have present : item :: items ≠ [] := List.cons_ne_nil _ _
    rw [foldArray_of_startsValue]
    · exact foldItems_written blank closes ends starts reads present enough
    · obtain ⟨more, parts⟩ :=
        exists_intercalate_cons (lead ++ body item) (items.map (lead ++ body ·))
      have visible := startsValue_append (starts item List.mem_cons_self) (more ++ closing)
      rw [List.map_cons, parts, List.append_assoc, List.append_assoc, blank,
        skipSpace_of_startsValue visible]
      exact visible

variable {motive : σ → Prop}

/-- Reading items keeps what every step keeps. -/
theorem foldItems_keeps
    (keeps : ∀ state text next rest, step state text = some (next, rest) →
      motive state → motive next)
    (folds : foldItems step rounds state text = some (last, rest)) (kept : motive state) :
    motive last := by
  induction rounds generalizing state text with
  | zero => cases folds
  | succ rounds ih =>
    unfold foldItems at folds
    split at folds
    · cases folds
    · next next after stepped =>
      have nextKept := keeps _ _ _ _ stepped kept
      split at folds
      · exact ih folds nextKept
      · obtain ⟨rfl, -⟩ := Prod.mk.inj (Option.some.inj folds)
        exact nextKept
      · cases folds

/-- What every step of an array keeps, the array keeps. -/
theorem foldArray_keeps
    (keeps : ∀ state text next rest, step state text = some (next, rest) →
      motive state → motive next)
    (folds : foldArray step rounds state text = some (last, rest)) (kept : motive state) :
    motive last := by
  unfold foldArray at folds
  split at folds
  · obtain ⟨rfl, -⟩ := Prod.mk.inj (Option.some.inj folds)
    exact kept
  · exact foldItems_keeps keeps folds kept

end Arrays

/-! ### Objects -/

section Objects

variable {step : σ → String → List Char → Option (σ × List Char)} {name : String}
  {value : List Char}

/-- After a member and a comma, the members behind the comma are read. -/
theorem foldMembers_comma (named : skipSpace text = quote name ++ ':' :: value)
    (reads : step state name (skipSpace value) = some (next, after))
    (comma : skipSpace after = ',' :: later) :
    foldMembers step (rounds + 1) state text = foldMembers step rounds next later := by
  rw [quote_append] at named
  have colon : skipSpace (':' :: value) = ':' :: value := rfl
  simp only [foldMembers, named, readString_quoted, colon, reads, comma]

/-- After a member and a closing brace, the members are complete. -/
theorem foldMembers_close (named : skipSpace text = quote name ++ ':' :: value)
    (reads : step state name (skipSpace value) = some (next, after))
    (closes : skipSpace after = '}' :: rest) :
    foldMembers step (rounds + 1) state text = some (next, rest) := by
  rw [quote_append] at named
  have colon : skipSpace (':' :: value) = ':' :: value := rfl
  simp only [foldMembers, named, readString_quoted, colon, reads, closes]

/-- White space in front of the members does not matter. -/
theorem foldMembers_skipSpace (step : σ → String → List Char → Option (σ × List Char))
    (rounds : Nat) (state : σ) (text : List Char) :
    foldMembers step rounds state (skipSpace text) = foldMembers step rounds state text := by
  cases rounds with
  | zero => rfl
  | succ rounds => rw [foldMembers, foldMembers, skipSpace_skipSpace]

variable {members : List (String × Json)} {lead gap closing : List Char} {body : Json → List Char}
  {push : σ → String × Json → σ}

/-- A member as it is written: white space, its name, a colon, white space and its value. -/
def writtenMember (lead gap : List Char) (body : Json → List Char) (member : String × Json) :
    List Char :=
  lead ++ (quote member.1 ++ ':' :: (gap ++ body member.2))

/-- Without the white space in front, a member begins with its name and a colon. -/
theorem skipSpace_writtenMember (blank : ∀ text, skipSpace (lead ++ text) = skipSpace text)
    (member : String × Json) :
    skipSpace (writtenMember lead gap body member ++ after) =
      quote member.1 ++ ':' :: (gap ++ body member.2 ++ after) := by
  rw [writtenMember, List.append_assoc, blank, List.append_assoc, List.cons_append, quote_append]
  rfl

/-- The step reads the written values of members one after the other, whatever follows them but what
goes on with a number, and gets from a first state to a last one. -/
inductive MembersRead (step : σ → String → List Char → Option (σ × List Char))
    (body : Json → List Char) : σ → List (String × Json) → σ → Prop
  | nil (state : σ) : MembersRead step body state [] state
  | cons {state next last : σ} {member : String × Json} {members : List (String × Json)}
      (reads : ∀ after, endsNumber after = true →
        step state member.1 (body member.2 ++ after) = some (next, after))
      (later : MembersRead step body next members last) :
      MembersRead step body state (member :: members) last

/-- If the step reads every member in every state, it reads them one after the other. -/
theorem membersRead_foldl (step : σ → String → List Char → Option (σ × List Char))
    (body : Json → List Char) (push : σ → String × Json → σ)
    (reads : ∀ state, ∀ member ∈ members, ∀ after, endsNumber after = true →
      step state member.1 (body member.2 ++ after) = some (push state member, after))
    (state : σ) : MembersRead step body state members (members.foldl push state) := by
  induction members generalizing state with
  | nil => exact .nil state
  | cons member members ih =>
    exact .cons (reads state member List.mem_cons_self)
      (ih (fun state member among => reads state member (List.mem_cons_of_mem _ among)) _)

/-- Members that are written with commas in between are read one after the other, if there is one at
least. -/
theorem foldMembers_written (blank : ∀ text, skipSpace (lead ++ text) = skipSpace text)
    (blankGap : ∀ text, skipSpace (gap ++ text) = skipSpace text)
    (closes : skipSpace closing = '}' :: rest) (ends : endsNumber closing = true)
    (starts : ∀ member ∈ members, startsValue (body member.2) = true)
    (reads : MembersRead step body state members last)
    (present : members ≠ []) (enough : members.length ≤ rounds) :
    foldMembers step rounds state
        ([','].intercalate (members.map (writtenMember lead gap body)) ++ closing) =
      some (last, rest) := by
  induction reads generalizing rounds with
  | nil => exact absurd rfl present
  | @cons state next last member members reads later ih =>
    obtain ⟨rounds, rfl⟩ : ∃ fewer, rounds = fewer + 1 :=
      Nat.exists_eq_succ_of_ne_zero (Nat.ne_zero_of_lt enough)
    have first : ∀ after, endsNumber after = true →
        step state member.1 (skipSpace (gap ++ body member.2 ++ after)) = some (next, after) := by
      intro after ends
      have visible := startsValue_append (starts member List.mem_cons_self) after
      rw [List.append_assoc, blankGap, skipSpace_of_startsValue visible]
      exact reads after ends
    cases members with
    | nil =>
      cases later
      rw [List.map_singleton, List.intercalate_singleton]
      exact foldMembers_close (skipSpace_writtenMember blank member) (first closing ends) closes
    | cons second members =>
      rw [List.map_cons, List.map_cons, List.intercalate_cons_cons, List.append_assoc,
        List.append_assoc (writtenMember lead gap body member),
        foldMembers_comma (skipSpace_writtenMember blank member) (first _ rfl) rfl]
      exact ih (fun member among => starts member (List.mem_cons_of_mem _ among))
        (List.cons_ne_nil _ _) (Nat.le_of_succ_le_succ enough)

/-- Members that are written with commas in between are read one after the other. White space may
stand in front of every member, of every value and of the closing brace. -/
theorem foldObject_written (blank : ∀ text, skipSpace (lead ++ text) = skipSpace text)
    (blankGap : ∀ text, skipSpace (gap ++ text) = skipSpace text)
    (closes : skipSpace closing = '}' :: rest) (ends : endsNumber closing = true)
    (starts : ∀ member ∈ members, startsValue (body member.2) = true)
    (reads : MembersRead step body state members last) (enough : members.length ≤ rounds) :
    foldObject step rounds state
        ([','].intercalate (members.map (writtenMember lead gap body)) ++ closing) =
      some (last, rest) := by
  cases members with
  | nil =>
    cases reads
    rw [List.map_nil, List.intercalate_nil, List.nil_append, foldObject, closes]
    rfl
  | cons member members =>
    have present : member :: members ≠ [] := List.cons_ne_nil _ _
    rw [foldObject]
    split
    · next brace =>
      obtain ⟨more, parts⟩ := exists_intercalate_cons (writtenMember lead gap body member)
        (members.map (writtenMember lead gap body))
      rw [List.map_cons, parts, List.append_assoc, skipSpace_writtenMember blank, quote_append]
        at brace
      cases brace
    · rw [foldMembers_skipSpace]
      exact foldMembers_written blank blankGap closes ends starts reads present enough

variable {motive : σ → Prop}

/-- Reading members keeps what every step keeps. -/
theorem foldMembers_keeps
    (keeps : ∀ state name text next rest, step state name text = some (next, rest) →
      motive state → motive next)
    (folds : foldMembers step rounds state text = some (last, rest)) (kept : motive state) :
    motive last := by
  induction rounds generalizing state text with
  | zero => cases folds
  | succ rounds ih =>
    unfold foldMembers at folds
    split at folds
    · split at folds
      · cases folds
      · split at folds
        · split at folds
          · cases folds
          · next next after stepped =>
            have nextKept := keeps _ _ _ _ _ stepped kept
            split at folds
            · exact ih folds nextKept
            · obtain ⟨rfl, -⟩ := Prod.mk.inj (Option.some.inj folds)
              exact nextKept
            · cases folds
        · cases folds
    · cases folds

/-- What every step of an object keeps, the object keeps. -/
theorem foldObject_keeps
    (keeps : ∀ state name text next rest, step state name text = some (next, rest) →
      motive state → motive next)
    (folds : foldObject step rounds state text = some (last, rest)) (kept : motive state) :
    motive last := by
  unfold foldObject at folds
  split at folds
  · obtain ⟨rfl, -⟩ := Prod.mk.inj (Option.some.inj folds)
    exact kept
  · exact foldMembers_keeps keeps folds kept

end Objects

/-! ### Whole texts -/

section Texts

variable {Value : Type} {read : Nat → List Char → Option (Value × List Char)} {value : Value}

/-- A text that is read whole was read in some rounds, up to a rest. -/
theorem exists_of_readWhole {text : String} (reads : readWhole read text = some value) :
    ∃ rounds body rest, read rounds body = some (value, rest) := by
  unfold readWhole at reads
  dsimp only at reads
  split at reads
  · next found =>
    split at reads
    · obtain rfl := Option.some.inj reads
      exact ⟨_, _, _, found⟩
    · cases reads
  · cases reads

/-- A text is read whole if reading it from its first character leaves nothing. -/
theorem readWhole_ofList (starts : startsValue text = true)
    (reads : read (2 * text.length + 2) text = some (value, [])) :
    readWhole read (String.ofList text) = some value := by
  simp only [readWhole, String.toList_ofList, skipSpace_of_startsValue starts, reads]
  rfl

end Texts

/-! ### Members -/

namespace Members

variable {members held : Members} {name : String} {value : Json} {member : String × Json}

/-- The names are in ascending order, each once. -/
def Ascending (members : Members) : Prop :=
  members.Pairwise fun first second => first.1 < second.1

/-- A member after an insertion is the one inserted or one from before. -/
theorem eq_or_mem_of_mem_insert (among : member ∈ members.insert name value) :
    member = (name, value) ∨ member ∈ members := by
  induction members with
  | nil => exact .inl (List.mem_singleton.mp among)
  | cons first members ih =>
    obtain ⟨other, held⟩ := first
    unfold Members.insert at among
    split at among
    · exact List.mem_cons.mp among
    · split at among
      · exact (List.mem_cons.mp among).imp_right (List.mem_cons_of_mem _)
      · rcases List.mem_cons.mp among with rfl | among
        · exact .inr List.mem_cons_self
        · exact (ih among).imp_right (List.mem_cons_of_mem _)

/-- Inserting a member keeps the order of the names. -/
theorem ascending_insert (name : String) (value : Json) (ascending : Ascending members) :
    Ascending (members.insert name value) := by
  induction members with
  | nil => exact List.pairwise_singleton _ _
  | cons first members ih =>
    obtain ⟨other, held⟩ := first
    obtain ⟨least, ascends⟩ := List.pairwise_cons.mp ascending
    unfold Members.insert
    split
    · next before =>
      refine List.pairwise_cons.mpr ⟨fun member among => ?_, ascending⟩
      rcases List.mem_cons.mp among with rfl | among
      · exact before
      · exact before.trans (least member among)
    · next notBefore =>
      split
      · next same =>
        subst same
        exact List.pairwise_cons.mpr ⟨least, ascends⟩
      · next different =>
        have after : other < name := lt_of_le_of_ne (not_lt.mp notBefore) (Ne.symm different)
        refine List.pairwise_cons.mpr ⟨fun member among => ?_, ih ascends⟩
        rcases eq_or_mem_of_mem_insert among with rfl | among
        · exact after
        · exact least member among

/-- A name that comes after all others goes to the end. -/
theorem insert_eq_append (greatest : ∀ member ∈ members, member.1 < name) :
    members.insert name value = members ++ [(name, value)] := by
  induction members with
  | nil => rfl
  | cons first members ih =>
    obtain ⟨other, held⟩ := first
    have before : other < name := greatest _ List.mem_cons_self
    have others := ih fun member among => greatest member (List.mem_cons_of_mem _ among)
    rw [Members.insert, if_neg before.not_gt, if_neg before.ne', others, List.cons_append]

/-- Members in the order of their names are inserted one behind the other. -/
theorem foldl_insert_of_ascending (ascending : Ascending (held ++ members)) :
    members.foldl (fun held member => held.insert member.1 member.2) held = held ++ members := by
  induction members generalizing held with
  | nil => exact (List.append_nil held).symm
  | cons member members ih =>
    have greatest : ∀ other ∈ held, other.1 < member.1 := fun other among =>
      (List.pairwise_append.mp ascending).2.2 other among member List.mem_cons_self
    rw [List.foldl_cons, insert_eq_append greatest]
    rw [List.append_cons held member members] at ascending ⊢
    exact ih ascending

/-- Members in ascending order are the object that is made of them. -/
theorem ofList_of_ascending (ascending : Ascending members) : ofList members = members :=
  foldl_insert_of_ascending ascending

/-- Members are held in the order of their names. -/
theorem ascending_ofList (members : List (String × Json)) : Ascending (ofList members) :=
  List.foldlRecOn members _ List.Pairwise.nil fun _ ascending member _ =>
    ascending_insert member.1 member.2 ascending

/-- Only members that were given are held. -/
theorem mem_of_mem_ofList {members : List (String × Json)} (among : member ∈ ofList members) :
    member ∈ members := by
  refine List.foldlRecOn members _ (motive := fun held => ∀ member ∈ held, member ∈ members)
    ?_ ?_ member among
  · intro member none
    cases none
  · intro held kept last given member among
    rcases eq_or_mem_of_mem_insert among with rfl | among
    · exact given
    · exact kept member among

/-! ### Lookup -/

/-- The first member of a name has the value of the name. -/
theorem get?_cons (member : String × Json) (members : Members) (name : String) :
    get? (member :: members) name =
      if member.1 = name then some member.2 else get? members name := by
  rw [get?, List.find?_cons]
  split
  · next same => exact (if_pos (beq_iff_eq.mp same)).symm
  · next different => exact (if_neg (beq_eq_false_iff_ne.mp different)).symm

/-- A member that is put in changes nothing under other names. -/
theorem get?_insert_of_ne {other : String} (different : name ≠ other) (value : Json)
    (members : Members) : (members.insert name value).get? other = members.get? other := by
  induction members with
  | nil => rw [Members.insert_nil, get?_cons, if_neg different]
  | cons first members ih =>
    obtain ⟨present, held⟩ := first
    unfold Members.insert
    split
    · rw [get?_cons, if_neg different]
    · split
      · next same => rw [get?_cons, get?_cons, if_neg different, if_neg (same ▸ different)]
      · rw [get?_cons, get?_cons, ih]

/-- Of a repeated name the object has the last value. -/
theorem get?_ofList (members : List (String × Json)) (name : String) :
    (ofList members).get? name = get? members.reverse name := by
  induction members using List.reverseRecOn with
  | nil => rfl
  | append_singleton members member ih =>
    have made : ofList (members ++ [member]) = (ofList members).insert member.1 member.2 :=
      List.foldl_append
    rw [made, List.reverse_append, List.reverse_singleton, List.singleton_append, get?_cons]
    split
    · next same => rw [← same, get?_insert_self]
    · next different => rw [get?_insert_of_ne different, ih]

/-- A value found under a name is the value of a member. -/
theorem mem_of_get?_eq_some (found : members.get? name = some value) : (name, value) ∈ members := by
  obtain ⟨member, finds, rfl⟩ := Option.map_eq_some_iff.mp found
  have same : member.1 = name := beq_iff_eq.mp (List.find?_eq_some_iff_append.mp finds).1
  exact same ▸ List.mem_of_find?_eq_some finds

/-- In an object every member is found under its name. -/
theorem mem_iff_get? (ascending : Ascending members) :
    (name, value) ∈ members ↔ members.get? name = some value := by
  refine ⟨fun among => ?_, mem_of_get?_eq_some⟩
  induction members with
  | nil => cases among
  | cons first members ih =>
    obtain ⟨least, ascends⟩ := List.pairwise_cons.mp ascending
    rw [get?_cons]
    rcases List.mem_cons.mp among with rfl | among
    · exact if_pos rfl
    · rw [if_neg (least _ among).ne, ih ascends among]

end Members

end QueryTail.Json
