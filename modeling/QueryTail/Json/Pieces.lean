import QueryTail.Json.Printer

/-!
# Indented JSON in pieces

The indented form of a value is not written at one go but in small pieces: brackets, quotes and
separators by themselves, the two spaces of each level by themselves, and inside a string every
escape and every run of characters that need none. Together the pieces are the indented form
(`flatten_pieces`).
-/

namespace QueryTail.Json

/-- A run of characters that need no escape, last first, as a piece. There are no empty pieces. -/
def runPiece (run : List Char) : List (List Char) :=
  if run = [] then [] else [run.reverse]

/-- The pieces of the inside of a string, after a run of characters that need no escape, last
first. -/
def fragments (run : List Char) : List Char → List (List Char)
  | [] => runPiece run
  | c :: rest =>
    if escapeChar c = [c] then fragments (c :: run) rest
    else runPiece run ++ escapeChar c :: fragments [] rest

/-- The pieces of a string. -/
def quotePieces (text : String) : List (List Char) :=
  ['"'] :: (fragments [] text.toList ++ [['"']])

/-- The pieces of the indentation of a level. -/
def indentation (level : Nat) : List (List Char) :=
  List.replicate level [' ', ' ']

mutual

/-- The pieces of the indented form of a value that starts at a level. -/
def pieces (level : Nat) : Json → List (List Char)
  | .string text => quotePieces text
  | .array [] => [['['], [']']]
  | .array (first :: rest) =>
    ['['] :: (itemPieces (level + 1) ['\n'] (first :: rest) ++
      ['\n'] :: (indentation level ++ [[']']]))
  | .object [] => [['{'], ['}']]
  | .object (first :: rest) =>
    ['{'] :: (memberPieces (level + 1) ['\n'] (first :: rest) ++
      ['\n'] :: (indentation level ++ [['}']]))
  | value => [compact value]

/-- The pieces of items. The first one follows a given piece, and the others a comma and a new
line. -/
def itemPieces (level : Nat) (lead : List Char) : List Json → List (List Char)
  | [] => []
  | item :: rest =>
    lead :: (indentation level ++ (pieces level item ++ itemPieces level [',', '\n'] rest))

/-- The pieces of members. The first one follows a given piece, and the others a comma and a new
line. -/
def memberPieces (level : Nat) (lead : List Char) : List (String × Json) → List (List Char)
  | [] => []
  | (name, value) :: rest =>
    lead :: (indentation level ++ (quotePieces name ++
      [':', ' '] :: (pieces level value ++ memberPieces level [',', '\n'] rest)))

end

/-- A run is held in reverse, and its piece has it in order. -/
theorem flatten_runPiece (run : List Char) : (runPiece run).flatten = run.reverse := by
  unfold runPiece
  split
  · next empty =>
    rw [empty]
    rfl
  · exact List.append_nil _

/-- The fragments of a text are its escaped form, whatever run is open before it. -/
theorem flatten_fragments (run text : List Char) :
    (fragments run text).flatten = run.reverse ++ text.flatMap escapeChar := by
  induction text generalizing run with
  | nil =>
    rw [fragments, flatten_runPiece]
    exact (List.append_nil _).symm
  | cons c rest ih =>
    unfold fragments
    split
    · next plain => rw [ih, List.flatMap_cons, plain, List.reverse_cons, List.append_assoc]
    · rw [List.flatten_append, List.flatten_cons, ih, flatten_runPiece, List.flatMap_cons]
      rfl

/-- The pieces of a quoted text make up its quoted form. -/
theorem flatten_quotePieces (text : String) : (quotePieces text).flatten = quote text := by
  rw [quotePieces, List.flatten_cons, List.flatten_append, flatten_fragments]
  rfl

/-- A line end and the pieces of the indentation behind it. -/
theorem flatten_indentation (level : Nat) :
    '\n' :: (indentation level).flatten = newLine level := by
  have two : [' ', ' '] = List.replicate 2 ' ' := rfl
  rw [indentation, newLine, two, List.flatten_replicate_replicate, Nat.mul_comm]

mutual

/-- The pieces make up the indented form. -/
theorem flatten_pieces (level : Nat) : (value : Json) →
    (pieces level value).flatten = indented level value
  | .null => rfl
  | .bool _ => List.append_nil _
  | .number _ => List.append_nil _
  | .string text => flatten_quotePieces text
  | .array [] => rfl
  | .array (first :: rest) => by
    have inside := flatten_itemPieces (level + 1) [] (first :: rest) (List.cons_ne_nil _ _)
    rw [List.nil_append] at inside
    rw [pieces, indented, List.flatten_cons, List.flatten_append, inside, List.flatten_cons,
      List.flatten_append, ← flatten_indentation]
    simp
  | .object [] => rfl
  | .object (first :: rest) => by
    have inside := flatten_memberPieces (level + 1) [] (first :: rest) (List.cons_ne_nil _ _)
    rw [List.nil_append] at inside
    rw [pieces, indented, List.flatten_cons, List.flatten_append, inside, List.flatten_cons,
      List.flatten_append, ← flatten_indentation]
    simp

/-- The pieces of the items of an array make up their indented form. -/
theorem flatten_itemPieces (level : Nat) (lead : List Char) : (items : List Json) → items ≠ [] →
    (itemPieces level (lead ++ ['\n']) items).flatten = lead ++ indentedItems level items
  | [item], _ => by
    have written := flatten_pieces level item
    simp [itemPieces, indentedItems, written, ← flatten_indentation]
  | item :: second :: rest, _ => by
    have written := flatten_pieces level item
    have others := flatten_itemPieces level [','] (second :: rest) (List.cons_ne_nil _ _)
    rw [List.singleton_append] at others
    rw [itemPieces, indentedItems, List.flatten_cons, List.flatten_append, List.flatten_append,
      others, written, ← flatten_indentation]
    · simp
    · exact List.cons_ne_nil _ _

/-- The pieces of the members of an object make up their indented form. -/
theorem flatten_memberPieces (level : Nat) (lead : List Char) : (members : List (String × Json)) →
    members ≠ [] →
    (memberPieces level (lead ++ ['\n']) members).flatten = lead ++ indentedMembers level members
  | [(name, value)], _ => by
    have written := flatten_pieces level value
    simp [memberPieces, indentedMembers, written, flatten_quotePieces, ← flatten_indentation]
  | (name, value) :: second :: rest, _ => by
    have written := flatten_pieces level value
    have others := flatten_memberPieces level [','] (second :: rest) (List.cons_ne_nil _ _)
    rw [List.singleton_append] at others
    rw [memberPieces, indentedMembers, List.flatten_cons, List.flatten_append, List.flatten_append,
      List.flatten_cons, List.flatten_append, others, written, flatten_quotePieces,
      ← flatten_indentation]
    · simp
    · exact List.cons_ne_nil _ _

end

end QueryTail.Json
