import QueryTail.Proofs.Filter.Criteria
import QueryTail.Proofs.Text.Lowercase

/-!
# Searching for what is there

A search is made without regard to letter case: the lower-case form of the search is looked for in
that of the subject. A text that stands in the subject letter by letter is found if the stretch
where it stands has the lower-case form that the text has alone, which only a capital sigma can
prevent (`Text.KeepsSigmas`).

So there are texts that are not found in every subject they stand in (`search_unfound`), namely
those with a capital sigma that is open (`search_found_iff`). For each of them there is a subject of
one letter more in which it is not found.
-/

namespace QueryTail.Filter

open Text (lowercase lowercaseWithin KeepsSigmas Settled startsCased)

/-! ### Lists that are no part of a longer one -/

section Infix

variable {α : Type} {part whole : List α} {last first : α}

/-- A list is no part of another with one element more in front, if it does not begin with this
element and is not the rest. -/
theorem not_infix_cons (length : part.length = whole.length) (different : part ≠ whole)
    (begins : part.head? ≠ some first) : ¬part <:+: first :: whole := by
  rintro within
  rcases List.infix_cons_iff.mp within with front | behind
  · rcases List.prefix_cons_iff.mp front with rfl | ⟨rest, rfl, -⟩
    · exact different (List.length_eq_zero_iff.mp length.symm).symm
    · exact begins rfl
  · exact different (behind.eq_of_length length)

/-- A list is no part of another with one element more at the end, if it does not end with this
element and is not the rest. -/
theorem not_infix_concat (length : part.length = whole.length) (different : part ≠ whole)
    (ends : part.getLast? ≠ some last) : ¬part <:+: whole ++ [last] := by
  intro within
  have turned : part.reverse <:+: last :: whole.reverse := by
    rw [← List.reverse_concat]
    exact List.reverse_infix.mpr within
  refine not_infix_cons ?_ ?_ ?_ turned
  · rw [List.length_reverse, List.length_reverse, length]
  · exact fun same => different (List.reverse_injective same)
  · rwa [List.head?_reverse]

end Infix

/-! ### Finding a search -/

variable {search : String} {row : Row} {rows : List Row} {place : Nat} {before after : List Char}

/-- A filter that only searches accepts a row by the lower-cased texts alone. -/
theorem accepts_search_iff :
    ({ none with search } : Filter).Accepts row ↔
      lowercase search.toList <:+: lowercase (subjectOf row).toList := by
  rw [accepts_iff_meets]
  refine ⟨Meets.search, fun found => ⟨?_, ?_, ?_, found, ?_⟩⟩
  · exact fun named => absurd rfl named
  all_goals exact fun _ absent => nomatch absent

/-- A text is found where it stands, if it keeps its capital sigmas there. -/
theorem accepts_search_of_keepsSigmas
    (stands : (subjectOf row).toList = before ++ search.toList ++ after)
    (keeps : KeepsSigmas before search.toList after) :
    ({ none with search } : Filter).Accepts row := by
  rw [accepts_search_iff, stands, ← Text.lowercaseWithin_eq_iff.mpr keeps]
  exact Text.lowercaseWithin_infix before search.toList after

/-- Of two letters one has a lower-case form other than a given character. -/
theorem exists_letter (c : Option Char) :
    ∃ letter, startsCased [letter] = true ∧ ∃ lower, some lower ≠ c ∧
      ∀ before after, lowercaseWithin before [letter] after = [lower] := by
  by_cases same : some 'a' = c
  · refine ⟨'B', by decide +kernel, 'b', ?_, fun _ _ => by rfl⟩
    rw [← same]
    decide
  · exact ⟨'A', by decide +kernel, 'a', same, fun _ _ => by rfl⟩

/-- A text with an open sigma is not part, in lower case, of the text with a certain letter in front
of it or behind it. -/
theorem exists_subject_of_not_settled {text : List Char} (unsettled : ¬Settled text) :
    ∃ subject, text <:+: subject ∧ ¬lowercase text <:+: lowercase subject := by
  rcases Text.exists_letter_of_not_settled unsettled with changes | changes
  · obtain ⟨letter, isLetter, lower, other, form⟩ := exists_letter (lowercase text).head?
    refine ⟨[letter] ++ text, (List.suffix_append [letter] text).isInfix, ?_⟩
    rw [Text.lowercase_eq ([letter] ++ text), Text.lowercaseWithin_append, form]
    refine not_infix_cons (Text.length_lowercaseWithin_eq _ _ _).symm ?_ other.symm
    exact fun same => changes letter isLetter (Text.lowercaseWithin_eq_iff.mp same.symm)
  · obtain ⟨letter, isLetter, lower, other, form⟩ := exists_letter (lowercase text).getLast?
    refine ⟨text ++ [letter], (List.prefix_append text [letter]).isInfix, ?_⟩
    rw [Text.lowercase_eq (text ++ [letter]), Text.lowercaseWithin_append, form, List.append_nil]
    refine not_infix_concat (Text.length_lowercaseWithin_eq _ _ _).symm ?_ other.symm
    exact fun same => changes letter isLetter (Text.lowercaseWithin_eq_iff.mp same.symm)

/-- A row is found by a text that stands in its subject if each capital sigma of the text ends a
word in the subject just when it does in the text alone. All rows with a text in their subjects are
found by it exactly if it has no open capital sigma. -/
theorem search_found_iff (search : String) :
    (∀ rows place row before after, rows[place]? = some row →
      (subjectOf row).toList = before ++ search.toList ++ after →
      KeepsSigmas before search.toList after →
      place ∈ ({ none with search } : Filter).apply rows) ∧
    ((∀ rows place row subject, rows[place]? = some row → row.entry.subject = some subject →
      search.toList <:+: subject.toList → place ∈ ({ none with search } : Filter).apply rows) ↔
        Settled search.toList) := by
  have found {rows place row before after} (here : (rows : List Row)[place]? = some row)
      (stands : (subjectOf row).toList = before ++ search.toList ++ after)
      (keeps : KeepsSigmas before search.toList after) :
      place ∈ ({ none with search } : Filter).apply rows :=
    mem_apply.mpr ⟨row, here, accepts_search_of_keepsSigmas stands keeps⟩
  refine ⟨fun _ _ _ _ _ => found, fun all => ?_, fun settled => ?_⟩
  · by_contra unsettled
    obtain ⟨subject, stands, absent⟩ := exists_subject_of_not_settled unsettled
    let row : Row := .ofEntry ⟨"", 0, Option.none, some (String.ofList subject), []⟩
    have member := all [row] 0 row (String.ofList subject) rfl rfl (by rwa [String.toList_ofList])
    obtain ⟨other, same, accepts⟩ := mem_apply.mp member
    obtain rfl : row = other := Option.some.inj same
    have within := accepts_search_iff.mp accepts
    rw [show subjectOf row = String.ofList subject from rfl, String.toList_ofList] at within
    exact absent within
  · intro rows place row subject here has stands
    obtain ⟨before, after, split⟩ := stands
    refine found here ?_ (settled.keepsSigmas before after)
    rw [subjectOf, has, Option.getD_some, split]

/-- Of the two sigmas one ends a word and one begins a word, wherever the text stands. -/
theorem search_found_iff_two_words :
    let row : Row := .ofEntry ⟨"A", 1, Option.none, some "xΑΣ ΣΑx", []⟩
    Settled "ΑΣ ΣΑ".toList ∧ "ΑΣ ΣΑ".toList <:+: "xΑΣ ΣΑx".toList ∧
      0 ∈ ({ none with search := "ΑΣ ΣΑ" } : Filter).apply [row] := by
  intro row
  have settled : Settled "ΑΣ ΣΑ".toList := by decide +kernel
  have stands : "ΑΣ ΣΑ".toList <:+: "xΑΣ ΣΑx".toList := by decide +kernel
  exact ⟨settled, stands, (search_found_iff "ΑΣ ΣΑ").2.mpr settled [row] 0 row _ rfl rfl stands⟩

/-- The sigma of the search ends a word there, and in the subject it does not. -/
theorem search_unfound :
    let row : Row := .ofEntry ⟨"A", 1, Option.none, some "ΑΣΑ", []⟩
    row.entry.subject = some "ΑΣΑ" ∧ "ΑΣ".toList <:+: "ΑΣΑ".toList ∧
      ({ none with search := "ΑΣ" } : Filter).apply [row] = [] := by
  decide +kernel

end QueryTail.Filter
