import QueryTail.Files.Path

/-!
# The steps of a path

What is left of a path without empty names and single dots: the steps that lead somewhere. A parent
has all steps of the path but the last (`steps_of_parent?`), so the ancestors of a path are its
beginnings (`steps_of_mem_ancestors`). They start where the path starts, because the anchor is kept.
-/

namespace QueryTail.FilePath

variable {separator : Char} {text anchor body name : List Char} {parts before : List (List Char)}
  {path parent : String}

/-! ### Parts between separators -/

/-- The parts between separators are those of `splitOn`. -/
theorem partsBetween_eq_splitOn (separator : Char) (text : List Char) :
    partsBetween separator text = text.splitOn separator := by
  induction text with
  | nil => rfl
  | cons c rest ih =>
    rw [List.splitOn_cons_eq_if_modifyHead, partsBetween, ih]
    by_cases same : c = separator
    · rw [if_pos same, if_pos (beq_iff_eq.mpr same)]
    · rw [if_neg same, if_neg fun equal => same (beq_iff_eq.mp equal)]
      cases parts : rest.splitOn separator with
      | nil => exact absurd parts (List.splitOn_ne_nil separator rest)
      | cons first others => rfl

/-- Joining parts puts the separator between them. -/
theorem joinParts_eq_intercalate (separator : Char) (parts : List (List Char)) :
    joinParts separator parts = [separator].intercalate parts := by
  induction parts with
  | nil => rfl
  | cons part rest ih =>
    cases rest with
    | nil => exact (List.append_nil part).symm
    | cons second rest =>
      rw [joinParts, ih, List.intercalate_cons_cons, List.append_assoc, List.singleton_append]
      exact List.cons_ne_nil _ _

/-- No part holds a separator. -/
theorem not_mem_of_mem_partsBetween {part : List Char}
    (among : part ∈ partsBetween separator text) : separator ∉ part := by
  induction text generalizing part with
  | nil =>
    obtain rfl := List.mem_singleton.mp among
    exact List.not_mem_nil
  | cons c rest ih =>
    unfold partsBetween at among
    split at among
    · rcases List.mem_cons.mp among with rfl | later
      · exact List.not_mem_nil
      · exact ih later
    · next different =>
      have alone : separator ≠ c := fun same => different same.symm
      split at among
      · obtain rfl := List.mem_singleton.mp among
        exact fun listed => alone (List.mem_singleton.mp listed)
      · next first others rest =>
        rw [rest] at ih
        rcases List.mem_cons.mp among with rfl | later
        · exact List.not_mem_cons_of_ne_of_not_mem alone (ih List.mem_cons_self)
        · exact ih (List.mem_cons_of_mem first later)

/-- Parts that are joined are told apart again, if there are any and none holds a separator. -/
theorem partsBetween_joinParts (present : parts ≠ [])
    (plain : ∀ part ∈ parts, separator ∉ part) :
    partsBetween separator (joinParts separator parts) = parts := by
  rw [partsBetween_eq_splitOn, joinParts_eq_intercalate,
    List.splitOn_intercalate separator plain present]

/-- A separator in front adds an empty part. -/
theorem partsBetween_cons_self (separator : Char) (text : List Char) :
    partsBetween separator (separator :: text) = [] :: partsBetween separator text :=
  if_pos rfl

/-! ### Parts that name something -/

/-- The parts of a text between slashes, without those that name nothing. -/
def namedParts (text : List Char) : List (List Char) :=
  (partsBetween '/' text).filter isName

/-- The steps of a path: its names without single dots. -/
def steps (path : String) : List String :=
  (namedParts path.toList).map String.ofList

/-- A slash in front adds no name. -/
theorem namedParts_slash (text : List Char) : namedParts ('/' :: text) = namedParts text := by
  rw [namedParts, partsBetween_cons_self]
  rfl

/-- A dot and a slash in front add no name. -/
theorem namedParts_dot_slash (text : List Char) :
    namedParts ('.' :: '/' :: text) = namedParts text := by
  have parts : partsBetween '/' ('.' :: '/' :: text) = ['.'] :: partsBetween '/' text := by
    rw [partsBetween, if_neg (by decide), partsBetween_cons_self]
  rw [namedParts, parts]
  rfl

/-- The anchor of a path names nothing. -/
theorem namedParts_splitAnchor (text : List Char) :
    namedParts (splitAnchor text).2 = namedParts text := by
  unfold splitAnchor
  split
  · exact (namedParts_slash _).symm
  · rfl
  · rw [namedParts_dot_slash, namedParts_slash]
  · rfl

/-- The names of joined parts are the parts that are names. -/
theorem namedParts_joinParts (plain : ∀ part ∈ parts, '/' ∉ part) :
    namedParts (joinParts '/' parts) = parts.filter isName := by
  by_cases present : parts = []
  · rw [present]
    rfl
  · rw [namedParts, partsBetween_joinParts present plain]

/-- What begins like a path, anchor and some parts, has the named ones of these parts. -/
theorem namedParts_anchor_append (anchored : splitAnchor text = (anchor, body))
    (begins : parts <+: partsBetween '/' body) :
    namedParts (anchor ++ joinParts '/' parts) = parts.filter isName := by
  have plain : ∀ part ∈ parts, '/' ∉ part := fun part among =>
    not_mem_of_mem_partsBetween (begins.subset among)
  unfold splitAnchor at anchored
  split at anchored
  · obtain ⟨rfl, rfl⟩ := Prod.mk.inj anchored
    rw [List.singleton_append, namedParts_slash, namedParts_joinParts plain]
  · obtain ⟨rfl, rfl⟩ := Prod.mk.inj anchored
    -- The text is a single dot, behind which there is one part, and that is empty.
    rcases List.prefix_cons_iff.mp begins with rfl | ⟨others, rfl, nothing⟩
    · rfl
    · rw [List.prefix_nil.mp nothing]
      rfl
  · next rest =>
    obtain ⟨rfl, rfl⟩ := Prod.mk.inj anchored
    -- The first part behind the dot is empty: the slash that follows the dot comes before it.
    rw [partsBetween_cons_self] at begins
    rcases List.prefix_cons_iff.mp begins with rfl | ⟨others, rfl, -⟩
    · rfl
    · cases others with
      | nil => rfl
      | cons second others =>
        have others := namedParts_joinParts (List.forall_mem_cons.mp plain).2
        rw [joinParts, List.nil_append, List.singleton_append, namedParts_dot_slash, others]
        · rfl
        · exact List.cons_ne_nil _ _
  · obtain ⟨rfl, rfl⟩ := Prod.mk.inj anchored
    exact namedParts_joinParts plain

/-! ### Parents -/

/-- What is dropped from the front because it is not kept makes no difference to what is kept. -/
theorem filter_reverse_dropWhile {Element : Type} (keep : Element → Bool) (list : List Element) :
    (list.dropWhile fun element => !keep element).reverse.filter keep =
      list.reverse.filter keep := by
  rw [List.filter_reverse, List.filter_reverse]
  congr 1
  induction list with
  | nil => rfl
  | cons element rest ih =>
    cases kept : keep element with
    | true => rw [List.dropWhile_cons_of_neg (by simp [kept])]
    | false =>
      rw [List.dropWhile_cons_of_pos (by simp [kept]), ih, List.filter_cons_of_neg (by simp [kept])]

/-- Seen from the end, a list begins with what is left after its first elements are dropped. -/
theorem reverse_dropWhile_begins {Element : Type} (drop : Element → Bool) (list : List Element) :
    (list.dropWhile drop).reverse <+: list.reverse :=
  List.reverse_prefix.mpr (List.dropWhile_suffix drop)

/-- A path that is taken apart at its last name has that name behind the parts before it. -/
theorem exists_of_split? (split : split? path = some ⟨anchor, before, name⟩) :
    ∃ body, splitAnchor path.toList = (anchor, body) ∧
      before.reverse <+: partsBetween '/' body ∧
      namedParts path.toList = before.reverse.filter isName ++ [name] := by
  unfold split? at split
  split at split
  next anchor body anchored =>
    split at split
    · cases split
    · next name before last =>
      cases split
      have kept := filter_reverse_dropWhile isName (partsBetween '/' body).reverse
      have begins := reverse_dropWhile_begins (fun part => !isName part)
        (partsBetween '/' body).reverse
      rw [last, List.reverse_reverse, List.reverse_cons] at kept begins
      have named : isName name = true := by
        have first := List.head?_dropWhile_not (fun part => !isName part)
          (partsBetween '/' body).reverse
        rw [last] at first
        exact Bool.not_eq_eq_eq_not.mp first
      refine ⟨body, anchored, (List.prefix_append _ _).trans begins, ?_⟩
      rw [← namedParts_splitAnchor, anchored, namedParts, ← kept, List.filter_append,
        List.filter_cons_of_pos named, List.filter_nil]

/-- A parent has all steps of the path but the last. -/
theorem steps_of_parent? (split : split? path = some ⟨anchor, before, name⟩)
    (above : parent? path = some parent) : steps path = steps parent ++ [String.ofList name] := by
  obtain ⟨body, anchored, begins, named⟩ := exists_of_split? split
  rw [parent?, split] at above
  obtain rfl := Option.some.inj above
  have shorter := (reverse_dropWhile_begins (fun part => !isName part) before).trans begins
  rw [steps, named, List.map_append, steps, String.toList_ofList,
    namedParts_anchor_append anchored shorter, filter_reverse_dropWhile]
  rfl

/-- A path with a file name has a parent, and its last step is that name, which goes down. -/
theorem exists_parent_of_fileName? (named : (fileName? path).isSome) :
    ∃ parent name, parent? path = some parent ∧ steps path = steps parent ++ [name] ∧
      name ≠ ".." := by
  unfold fileName? at named
  split at named
  · next anchor before name split =>
    split at named
    · cases named
    · next down =>
      obtain ⟨parent, above⟩ : ∃ parent, parent? path = some parent := by
        rw [parent?, split]
        exact ⟨_, rfl⟩
      refine ⟨parent, String.ofList name, above, steps_of_parent? split above, fun up => down ?_⟩
      rw [String.ext_iff, String.toList_ofList] at up
      exact up
  · cases named

/-- The steps to the parent are the first of the steps to the path. -/
theorem steps_parent_begins (above : parent? path = some parent) : steps parent <+: steps path := by
  cases last : split? path with
  | some split =>
    rw [steps_of_parent? last above]
    exact List.prefix_append _ _
  | none =>
    rw [parent?, last] at above
    dsimp only at above
    split at above
    · obtain rfl := Option.some.inj above
      exact List.nil_prefix
    · cases above

/-- The anchor of a path and its body make up the path. -/
theorem splitAnchor_append (anchored : splitAnchor text = (anchor, body)) :
    anchor ++ body = text := by
  unfold splitAnchor at anchored
  split at anchored <;> (obtain ⟨rfl, rfl⟩ := Prod.mk.inj anchored; rfl)

/-- What starts at the root has a slash for its anchor. -/
theorem splitAnchor_of_head?_eq_slash (absolute : text.head? = some '/') :
    (splitAnchor text).1 = ['/'] := by
  cases text with
  | nil => cases absolute
  | cons c rest =>
    obtain rfl := Option.some.inj absolute
    rfl

/-- Joining the first parts gives the beginning of joining all. -/
theorem joinParts_begins {others : List (List Char)} (begins : parts <+: others) :
    joinParts separator parts <+: joinParts separator others := by
  obtain ⟨more, rfl⟩ := begins
  induction parts with
  | nil => exact List.nil_prefix
  | cons part rest ih =>
    cases rest with
    | nil =>
      cases more with
      | nil => exact List.prefix_rfl
      | cons next more => exact List.prefix_append _ _
    | cons second rest =>
      exact (List.prefix_append_right_inj part).mpr (List.cons_prefix_cons.mpr ⟨rfl, ih⟩)

/-- A parent is cut off the front of the path, with the slash there if there is one. -/
theorem cutOff_of_parent? (above : parent? path = some parent) :
    parent.toList <+: path.toList ∧ (path.toList.head? = some '/' → parent.toList ≠ []) := by
  unfold parent? at above
  split at above
  · next anchor before name split =>
    obtain ⟨body, anchored, begins, -⟩ := exists_of_split? split
    obtain rfl := Option.some.inj above
    have shorter := (reverse_dropWhile_begins (fun part => !isName part) before).trans begins
    have joined : joinParts '/' _ <+: joinParts '/' _ := joinParts_begins shorter
    rw [joinParts_partsBetween] at joined
    rw [String.toList_ofList]
    constructor
    · rw [← splitAnchor_append anchored]
      exact (List.prefix_append_right_inj anchor).mpr joined
    · intro absolute
      have slash : anchor = ['/'] := by
        rw [← splitAnchor_of_head?_eq_slash absolute, anchored]
      rw [slash]
      exact List.cons_ne_nil _ _
  · split at above
    · next dotted =>
      obtain rfl := Option.some.inj above
      constructor
      · exact List.nil_prefix
      · intro absolute
        rw [splitAnchor_of_head?_eq_slash absolute] at dotted
        exact absurd dotted (by decide)
    · cases above

/-- A parent starts where the path starts. -/
theorem isAbsolute_of_parent? (above : parent? path = some parent) :
    isAbsolute parent = isAbsolute path := by
  obtain ⟨⟨rest, same⟩, present⟩ := cutOff_of_parent? above
  unfold isAbsolute
  rw [← same] at present ⊢
  cases kept : parent.toList with
  | nil =>
    rw [kept] at present
    exact (beq_eq_false_iff_ne.mpr fun absolute => present absolute rfl).symm
  | cons c text => rfl

/-- The steps of an ancestor are a beginning of the steps of the path and start where they start. -/
theorem steps_of_mem_ancestors {above : String} (among : above ∈ ancestors path) :
    steps above <+: steps path ∧ isAbsolute above = isAbsolute path := by
  suffices climbs : ∀ count path, above ∈ ancestors.climb count path →
      steps above <+: steps path ∧ isAbsolute above = isAbsolute path from climbs _ _ among
  intro count
  induction count with
  | zero =>
    intro path among
    obtain rfl := List.mem_singleton.mp among
    exact ⟨List.prefix_rfl, rfl⟩
  | succ count ih =>
    intro path among
    unfold ancestors.climb at among
    split at among
    · obtain rfl := List.mem_singleton.mp among
      exact ⟨List.prefix_rfl, rfl⟩
    · next parent isParent =>
      rcases List.mem_cons.mp among with rfl | higher
      · exact ⟨List.prefix_rfl, rfl⟩
      · obtain ⟨begins, same⟩ := ih parent higher
        exact ⟨begins.trans (steps_parent_begins isParent),
          same.trans (isAbsolute_of_parent? isParent)⟩

end QueryTail.FilePath
