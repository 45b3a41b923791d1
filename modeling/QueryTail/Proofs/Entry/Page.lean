import Mathlib.Data.List.Basic
import QueryTail.Entry.Page

/-!
# Pages by their lines

A page is cut out of a log from its end, line by line, until it is full. Its entries are those of
the lines that hold one, last line first, as many as there is room for (`entries_ofText`). The bad
lines that are met on the way do not show in the entries.
-/

namespace QueryTail

variable {node : String} {size : Nat}

/-- What the scan for lines makes of a character. It holds the start of the current line, last
character first, and the lines before it, last line first. -/
def scanLine (state : List Char × List (List Char)) (c : Char) : List Char × List (List Char) :=
  if c = '\n' then ([], state.1.reverse :: state.2) else (c :: state.1, state.2)

/-- Scanning on from an open line continues that line and stacks the later ones before what is done.
-/
theorem foldl_scanLine (text current : List Char) (done : List (List Char)) :
    (text.foldl scanLine (current, done)).1.reverse :: (text.foldl scanLine (current, done)).2 =
      ((text.splitOn '\n').modifyHead (current.reverse ++ ·)).reverse ++ done := by
  induction text generalizing current done with
  | nil => simp
  | cons c rest ih =>
    rw [List.foldl_cons, List.splitOn_cons_eq_if_modifyHead, scanLine]
    obtain ⟨line, others, lines⟩ := List.exists_cons_of_ne_nil (List.splitOn_ne_nil '\n' rest)
    by_cases ends : c = '\n'
    · rw [if_pos ends, if_pos (beq_iff_eq.mpr ends), ih, lines]
      simp
    · rw [if_neg ends, if_neg (mt beq_iff_eq.mp ends), ih, lines]
      simp

/-- The lines from the end are the lines of the text, reversed. -/
theorem linesFromEnd_eq (text : List Char) : linesFromEnd text = (text.splitOn '\n').reverse := by
  have scanned := foldl_scanLine text [] []
  obtain ⟨line, others, lines⟩ := List.exists_cons_of_ne_nil (List.splitOn_ne_nil '\n' text)
  rw [List.append_nil, lines] at scanned
  rw [lines]
  exact scanned

/-- The entry that a line of a node's log holds, if it holds one. -/
def Entry.ofLine? (node : String) (line : List Char) : Option Entry :=
  match LineContent.ofLine node line with
  | .entry entry => some entry
  | _ => none

namespace Page

/-- Collecting adds the newest entries of the lines that fit to those found before. -/
theorem entries_collect (room : Nat) (found : List Entry) (bad : List BadLine)
    (lines : List (List Char)) :
    (collect node room found bad lines).entries =
      found.reverse ++ (lines.filterMap (Entry.ofLine? node)).take room := by
  induction lines generalizing room found bad with
  | nil => cases room <;> simp [collect]
  | cons line older ih =>
    cases room with
    | zero => simp [collect]
    | succ room =>
      unfold collect
      cases held : LineContent.ofLine node line with
      | blank =>
        have none : Entry.ofLine? node line = none := by rw [Entry.ofLine?, held]
        simp only [ih, List.filterMap_cons_none none]
      | bad line' =>
        have none : Entry.ofLine? node line = none := by rw [Entry.ofLine?, held]
        simp only [ih, List.filterMap_cons_none none]
      | entry entry =>
        have some : Entry.ofLine? node line = some entry := by rw [Entry.ofLine?, held]
        simp only [ih, List.filterMap_cons_some some, List.reverse_cons, List.append_assoc,
          List.singleton_append, List.take_succ_cons]

/-- A page holds the entries of the last lines that hold one, newest first. -/
theorem entries_ofText (node : String) (size : Nat) (content : List Char) :
    (ofText node size content).entries =
      ((content.splitOn '\n').reverse.filterMap (Entry.ofLine? node)).take size := by
  unfold ofText
  split
  · next none => rw [none, List.take_zero]
  · rw [entries_collect, List.reverse_nil, List.nil_append, linesFromEnd_eq]

/-- The empty text is one blank line. -/
@[simp] theorem entries_ofText_nil (node : String) (size : Nat) :
    (ofText node size []).entries = [] := by
  rw [entries_ofText, List.splitOn_nil, List.reverse_singleton]
  exact List.take_nil

end Page

end QueryTail
