import Mathlib.Data.List.TakeWhile
import QueryTail.Text.Lowercase

/-!
# The lower-case form of a part of a text

All characters but one have a lower-case form of their own. The capital sigma looks at the letters
around it, so that a part of a text may have another form within the text (`lowercaseWithin`) than
on its own. The two are the same exactly if each of its capital sigmas ends a word within the text
just when it does in the part alone (`lowercaseWithin_eq_iff`).

For which parts this never fails can be told from the part: a capital sigma is open if the part has
nothing on one side of it that would settle the question (`OpenSigma`). A part without an open sigma
has one form everywhere, and for any other a single letter in front of it or behind it is enough to
change its form (`exists_letter_of_not_settled`).
-/

namespace QueryTail.Text

variable {before text after first rest : List Char} {letter : Char}

/-! ### Letters around a sigma -/

/-- All characters are ignored in questions of case. -/
def CaseIgnored (text : List Char) : Prop :=
  ∀ c ∈ text, inRanges CaseTable.caseIgnorable c.toNat = true

/-- A capital sigma between these characters ends a word: a letter with case stands before it and
none behind it, not counting characters that are ignored in questions of case. -/
def EndsWord (before after : List Char) : Prop :=
  startsCased before.reverse = true ∧ startsCased after = false

instance (before after : List Char) : Decidable (EndsWord before after) :=
  inferInstanceAs (Decidable (_ ∧ _))

/-- Between these characters every capital sigma of a text ends a word just when it does in the text
alone. -/
def KeepsSigmas (before text after : List Char) : Prop :=
  ∀ first rest, text = first ++ 'Σ' :: rest →
    (EndsWord (before ++ first) (rest ++ after) ↔ EndsWord first rest)

/-- For a capital sigma between these characters of a text it is open whether it ends a word: it
could, if a letter stood before the text, or it does, unless a letter stands behind the text. -/
def OpenSigma (first rest : List Char) : Prop :=
  CaseIgnored first ∧ startsCased rest = false ∨ startsCased first.reverse = true ∧ CaseIgnored rest

/-- No capital sigma of the text is open. -/
def Settled (text : List Char) : Prop :=
  ∀ first rest, text = first ++ 'Σ' :: rest → ¬OpenSigma first rest

-- The instance is named because the one for all characters at once would be found as well.
instance (text : List Char) : Decidable (CaseIgnored text) :=
  List.decidableBAll _ text

instance (first rest : List Char) : Decidable (OpenSigma first rest) :=
  inferInstanceAs (Decidable (_ ∧ _ ∨ _ ∧ _))

/-- A text is settled when none of its places holds an open sigma. -/
theorem settled_iff :
    Settled text ↔ ∀ place < text.length, text[place]? = some 'Σ' →
      ¬OpenSigma (text.take place) (text.drop (place + 1)) := by
  constructor
  · intro settled place inside found
    refine settled _ _ ?_
    obtain ⟨_, sigma⟩ := List.getElem?_eq_some_iff.mp found
    rw [← sigma, ← List.drop_eq_getElem_cons, List.take_append_drop]
  · rintro settled first rest rfl
    simpa using settled first.length (by simp) (by simp)

instance (text : List Char) : Decidable (Settled text) :=
  decidable_of_iff _ settled_iff.symm

/-- Whether characters are ignored does not depend on their order. -/
theorem caseIgnored_reverse : CaseIgnored text.reverse ↔ CaseIgnored text := by
  simp [CaseIgnored]

/-- Where all characters are ignored, no letter with case comes first. -/
theorem startsCased_of_caseIgnored (ignored : CaseIgnored text) : startsCased text = false := by
  rw [startsCased, List.dropWhile_eq_nil_iff.mpr ignored]

/-- Characters that are ignored hide nothing of what follows. -/
theorem startsCased_append_of_caseIgnored (ignored : CaseIgnored first) :
    startsCased (first ++ rest) = startsCased rest := by
  rw [startsCased, List.dropWhile_append_of_pos ignored, startsCased]

/-- A character that is not ignored hides all that follows. -/
theorem startsCased_append_of_not_caseIgnored (counts : ¬CaseIgnored first) :
    startsCased (first ++ rest) = startsCased first := by
  unfold startsCased
  rw [List.dropWhile_append, if_neg]
  · cases left : first.dropWhile fun c => inRanges CaseTable.caseIgnorable c.toNat with
    | nil => exact absurd (List.dropWhile_eq_nil_iff.mp left) counts
    | cons c later => rfl
  · rw [List.isEmpty_iff, List.dropWhile_eq_nil_iff]
    exact counts

/-- A sigma that is not open ends a word in all surroundings or in none. -/
theorem endsWord_iff_of_not_open (settled : ¬OpenSigma first rest) :
    EndsWord (before ++ first) (rest ++ after) ↔ EndsWord first rest := by
  unfold EndsWord
  rw [List.reverse_append]
  by_cases ignored : CaseIgnored first
  · have cased : startsCased rest = true := by
      rw [← Bool.not_eq_false]
      exact fun uncased => settled (Or.inl ⟨ignored, uncased⟩)
    have counts : ¬CaseIgnored rest := fun all => by
      rw [startsCased_of_caseIgnored all] at cased
      exact Bool.false_ne_true cased
    rw [startsCased_append_of_not_caseIgnored counts, cased]
    simp
  · rw [startsCased_append_of_not_caseIgnored (mt caseIgnored_reverse.mp ignored)]
    refine and_congr_right fun cased => ?_
    have counts : ¬CaseIgnored rest := fun all => settled (Or.inr ⟨cased, all⟩)
    rw [startsCased_append_of_not_caseIgnored counts]

/-- A settled text keeps its sigmas wherever it stands. -/
theorem Settled.keepsSigmas (settled : Settled text) (before after : List Char) :
    KeepsSigmas before text after :=
  fun first rest split => endsWord_iff_of_not_open (settled first rest split)

/-- A text with an open sigma does not keep its sigmas behind a letter, whichever that is, or it
does not keep them before one. -/
theorem exists_letter_of_not_settled (unsettled : ¬Settled text) :
    (∀ letter, startsCased [letter] = true → ¬KeepsSigmas [letter] text []) ∨
      ∀ letter, startsCased [letter] = true → ¬KeepsSigmas [] text [letter] := by
  simp only [Settled, not_forall, not_not] at unsettled
  obtain ⟨first, rest, split, ⟨ignored, uncased⟩ | ⟨cased, ignored⟩⟩ := unsettled
  · refine Or.inl fun letter isLetter keeps => ?_
    have ends : EndsWord ([letter] ++ first) (rest ++ []) := by
      refine ⟨?_, by rwa [List.append_nil]⟩
      rwa [List.reverse_append,
        startsCased_append_of_caseIgnored (caseIgnored_reverse.mpr ignored)]
    have alone := ((keeps first rest split).mp ends).1
    rw [startsCased_of_caseIgnored (caseIgnored_reverse.mpr ignored)] at alone
    exact Bool.false_ne_true alone
  · refine Or.inr fun letter isLetter keeps => ?_
    have alone : EndsWord first rest := ⟨cased, startsCased_of_caseIgnored ignored⟩
    have within := ((keeps first rest split).mpr alone).2
    rw [startsCased_append_of_caseIgnored ignored, isLetter] at within
    exact Bool.false_ne_true within.symm

/-! ### Lower case within a text -/

/-- The lower-case form of a character between others. -/
def lowercaseAt (before : List Char) (c : Char) (after : List Char) : List Char :=
  if c = 'Σ' then [if EndsWord before after then 'ς' else 'σ']
  else if c = 'İ' then ['i', '\u0307']
  else [simpleLowercase c]

/-- The lower-case form that a part of a text has between the other parts. -/
def lowercaseWithin (before : List Char) : List Char → List Char → List Char
  | [], _ => []
  | c :: rest, after =>
    lowercaseAt before c (rest ++ after) ++ lowercaseWithin (before ++ [c]) rest after

/-- Lower-casing that has read a text goes on with the rest as the rest stands behind it. -/
theorem lowercaseFrom_eq (found read text : List Char) :
    lowercaseFrom found read text = found.reverse ++ lowercaseWithin read.reverse text [] := by
  induction text generalizing found read with
  | nil => exact (List.append_nil _).symm
  | cons c rest ih =>
    rw [lowercaseFrom, ih, lowercaseWithin, lowercaseAt, List.append_nil, List.reverse_cons,
      ← List.append_assoc]
    congr 1
    split
    · simp [EndsWord]
    · split <;> simp

/-- Lower-casing a text takes it with nothing around it. -/
theorem lowercase_eq (text : List Char) : lowercase text = lowercaseWithin [] text [] :=
  lowercaseFrom_eq [] [] text

/-- The form of a text is made of the forms that its parts have between one another. -/
theorem lowercaseWithin_append (before first rest after : List Char) :
    lowercaseWithin before (first ++ rest) after =
      lowercaseWithin before first (rest ++ after) ++
        lowercaseWithin (before ++ first) rest after := by
  induction first generalizing before with
  | nil => rw [List.nil_append, lowercaseWithin, List.nil_append, List.append_nil]
  | cons c later ih =>
    rw [List.cons_append, lowercaseWithin, ih, lowercaseWithin, List.append_assoc,
      List.append_assoc, List.append_assoc, List.singleton_append]

/-- The surroundings of a character do not change the length of its form. -/
theorem length_lowercaseAt (before after otherBefore otherAfter : List Char) (c : Char) :
    (lowercaseAt before c after).length = (lowercaseAt otherBefore c otherAfter).length := by
  unfold lowercaseAt
  split
  · rfl
  · rfl

/-- The surroundings of a text do not change the length of its form. -/
theorem length_lowercaseWithin (before after otherBefore otherAfter text : List Char) :
    (lowercaseWithin before text after).length =
      (lowercaseWithin otherBefore text otherAfter).length := by
  induction text generalizing before otherBefore with
  | nil => rfl
  | cons c rest ih =>
    rw [lowercaseWithin, lowercaseWithin, List.length_append, List.length_append,
      length_lowercaseAt, ih]

/-- A character has one form in two places, unless it is a sigma that is final in one of them only.
-/
theorem lowercaseAt_eq_iff {otherBefore otherAfter : List Char} {c : Char} :
    lowercaseAt before c after = lowercaseAt otherBefore c otherAfter ↔
      (c = 'Σ' → (EndsWord before after ↔ EndsWord otherBefore otherAfter)) := by
  unfold lowercaseAt
  split
  · next sigma =>
    rw [List.singleton_inj, forall_prop_of_true sigma]
    by_cases ends : EndsWord before after <;>
      by_cases otherEnds : EndsWord otherBefore otherAfter <;> simp [ends, otherEnds]
  · next other => simp [other]

/-- A text has one form in two places exactly if its capital sigmas are final in the same ones. -/
theorem lowercaseWithin_eq_lowercaseWithin_iff {otherBefore otherAfter : List Char} :
    lowercaseWithin before text after = lowercaseWithin otherBefore text otherAfter ↔
      ∀ first rest, text = first ++ 'Σ' :: rest →
        (EndsWord (before ++ first) (rest ++ after) ↔
          EndsWord (otherBefore ++ first) (rest ++ otherAfter)) := by
  induction text generalizing before otherBefore with
  | nil => simp [lowercaseWithin]
  | cons c later ih =>
    rw [lowercaseWithin, lowercaseWithin,
      List.append_eq_append_iff_of_size_eq_left (length_lowercaseAt _ _ _ _ c),
      lowercaseAt_eq_iff, ih]
    constructor
    · rintro ⟨here, behind⟩ first rest split
      rcases List.cons_eq_append_iff.mp split with ⟨rfl, same⟩ | ⟨between, rfl, within⟩
      · obtain ⟨rfl, rfl⟩ := List.cons.inj same
        simpa using here rfl
      · simpa using behind between rest within
    · intro all
      refine ⟨?_, fun first rest split => ?_⟩
      · rintro rfl
        simpa using all [] later rfl
      · simpa using all (c :: first) rest (congrArg (c :: ·) split)

/-- A text has within a text the form that it has alone exactly if it keeps its capital sigmas. -/
theorem lowercaseWithin_eq_iff :
    lowercaseWithin before text after = lowercase text ↔ KeepsSigmas before text after := by
  rw [lowercase_eq, lowercaseWithin_eq_lowercaseWithin_iff]
  simp only [KeepsSigmas, List.nil_append, List.append_nil]

/-- Within other texts the form of a text is as long as it is alone. -/
theorem length_lowercaseWithin_eq (before text after : List Char) :
    (lowercaseWithin before text after).length = (lowercase text).length := by
  rw [lowercase_eq, length_lowercaseWithin]

/-- The form of a text contains the form that a part has between the others. -/
theorem lowercaseWithin_infix (before text after : List Char) :
    lowercaseWithin before text after <:+: lowercase (before ++ text ++ after) := by
  rw [lowercase_eq, lowercaseWithin_append, lowercaseWithin_append, List.append_nil,
    List.nil_append]
  exact ⟨_, _, rfl⟩

end QueryTail.Text
