/-!
# Blank characters

The characters with the Unicode property `White_Space`, and the removal of blanks from the two
ends of a text. Trimming keeps everything between the first and the last character that is not
blank; it never looks inside.
-/

namespace QueryTail.Text

/-- The blank characters: the twenty-five code points of `White_Space`. -/
def isBlank (c : Char) : Bool :=
  let code := c.toNat
  (9 ≤ code && code ≤ 13) || code == 0x20 || code == 0x85 || code == 0xA0 || code == 0x1680 ||
    (0x2000 ≤ code && code ≤ 0x200A) || code == 0x2028 || code == 0x2029 || code == 0x202F ||
    code == 0x205F || code == 0x3000

/-- A text without the blanks it starts with. -/
def skipBlanks (text : List Char) : List Char :=
  text.dropWhile isBlank

/-- A text without the blanks at its two ends. -/
def trim (text : List Char) : List Char :=
  (skipBlanks (skipBlanks text).reverse).reverse

/-- `trim` on strings. -/
def trimmed (text : String) : String :=
  String.ofList (trim text.toList)

/-- A text that starts with a character that is not blank keeps its start. -/
theorem skipBlanks_cons_of_not_blank {c : Char} {rest : List Char} (solid : isBlank c = false) :
    skipBlanks (c :: rest) = c :: rest := by
  simp [skipBlanks, solid]

/-- Blanks in front of a text do not show after `skipBlanks`. -/
theorem skipBlanks_append {blanks rest : List Char} (allBlank : ∀ c ∈ blanks, isBlank c = true) :
    skipBlanks (blanks ++ rest) = skipBlanks rest := by
  induction blanks with
  | nil => rfl
  | cons c blanks ih =>
    have blank : isBlank c = true := allBlank c (by simp)
    have : skipBlanks (c :: (blanks ++ rest)) = skipBlanks (blanks ++ rest) := by
      simp [skipBlanks, blank]
    simpa [this] using ih fun d member => allBlank d (by simp [member])

/-- A text that does not start with a blank is kept. -/
theorem skipBlanks_of_head {text : List Char} (first : ∀ c ∈ text.head?, isBlank c = false) :
    skipBlanks text = text := by
  cases text with
  | nil => rfl
  | cons c rest => exact skipBlanks_cons_of_not_blank (first c rfl)

/-- A text neither starts nor ends with a blank. -/
structure Solid (text : List Char) : Prop where
  head : ∀ c ∈ text.head?, isBlank c = false
  last : ∀ c ∈ text.getLast?, isBlank c = false

/-- Blanks around a text do not show after `trim`, and nothing else is lost. -/
theorem trim_append {before text after : List Char} (blank : ∀ c ∈ before, isBlank c = true)
    (blank' : ∀ c ∈ after, isBlank c = true) (solid : Solid text) :
    trim (before ++ text ++ after) = text := by
  cases text with
  | nil =>
    have nothing : skipBlanks (before ++ after) = [] := by
      rw [skipBlanks_append blank, ← List.append_nil after, skipBlanks_append blank']
      rfl
    rw [List.append_nil, trim, nothing]
    rfl
  | cons c rest =>
    have front : skipBlanks (before ++ (c :: rest) ++ after) = c :: rest ++ after := by
      rw [List.append_assoc, skipBlanks_append blank]
      exact skipBlanks_of_head solid.head
    have back : skipBlanks (c :: rest).reverse = (c :: rest).reverse :=
      skipBlanks_of_head fun d last => solid.last d (by rwa [List.head?_reverse] at last)
    rw [trim, front, List.reverse_append,
      skipBlanks_append fun d among => blank' d (List.mem_reverse.mp among), back,
      List.reverse_reverse]

/-- A text without blanks at its ends is trimmed already. -/
theorem Solid.trim_eq {text : List Char} (solid : Solid text) : trim text = text := by
  have kept := @trim_append [] text [] (fun _ among => nomatch among) (fun _ among => nomatch among)
    solid
  rwa [List.nil_append, List.append_nil] at kept

/-- What `skipBlanks` leaves does not start with a blank. -/
theorem not_blank_of_head_skipBlanks {text : List Char} {c : Char}
    (first : (skipBlanks text).head? = some c) : isBlank c = false := by
  have stops := List.head?_dropWhile_not isBlank text
  rw [← skipBlanks, first] at stops
  simpa using stops

/-- What `skipBlanks` leaves starts with what `trim` leaves. -/
theorem skipBlanks_eq_trim_append (text : List Char) :
    ∃ blanks, skipBlanks text = trim text ++ blanks := by
  have whole := List.takeWhile_append_dropWhile (p := isBlank) (l := (skipBlanks text).reverse)
  refine ⟨((skipBlanks text).reverse.takeWhile isBlank).reverse, ?_⟩
  calc skipBlanks text
      = (skipBlanks text).reverse.reverse := (List.reverse_reverse _).symm
    _ = trim text ++ ((skipBlanks text).reverse.takeWhile isBlank).reverse := by
        rw [← whole, List.reverse_append, whole]
        rfl

/-- A text that was trimmed has no blanks left at its ends. -/
theorem solid_trim (text : List Char) : Solid (trim text) where
  head := by
    intro c first
    obtain ⟨blanks, cut⟩ := skipBlanks_eq_trim_append text
    have starts : (skipBlanks text).head? = some c := by
      rw [cut, List.head?_append, first, Option.some_or]
    exact not_blank_of_head_skipBlanks starts
  last := by
    intro c last
    rw [trim, List.getLast?_reverse] at last
    exact not_blank_of_head_skipBlanks last

end QueryTail.Text
