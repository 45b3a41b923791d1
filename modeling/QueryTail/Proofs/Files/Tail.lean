import Mathlib.Data.List.TakeWhile
import QueryTail.Files.Tail
import QueryTail.Proofs.Text.Lossy

/-!
# Where the tail of a content starts

The tail is read from a place that may lie inside a line or inside a character. The line that is cut
is dropped, and what is left reads as if the reading had started at the next line. So the tail is
what the bytes from some place on read as, and the place is the first start of a line within the
bound, or the end if there is none (`tailOfWindow_eq`).
-/

namespace QueryTail

open Text

variable {content bytes : List UInt8} {place : Nat} {bound : UInt64}

/-- A line starts at a place: at the beginning, or right behind a newline. -/
def StartsLine (content : List UInt8) (place : Nat) : Prop :=
  place = 0 ∨ 0 < place ∧ content[place - 1]? = some 10

/-- A place where a line starts moves along when a line is put in front. -/
theorem StartsLine.append {after : List UInt8} (starts : StartsLine after place)
    (before : List UInt8) : StartsLine (before ++ 10 :: after) (before.length + 1 + place) := by
  right
  refine ⟨by omega, ?_⟩
  rcases starts with rfl | ⟨later, newline⟩
  · simp
  · have behind : before.length + 1 + place - 1 = before.length + (place - 1 + 1) := by omega
    rw [behind, List.getElem?_append_right (Nat.le_add_right _ _), Nat.add_sub_cancel_left,
      List.getElem?_cons_succ, newline]

/-- A place where a line starts stays one when more is put behind. -/
theorem StartsLine.append_right {before : List UInt8} (starts : StartsLine before place)
    (after : List UInt8) : StartsLine (before ++ after) place := by
  rcases starts with first | ⟨later, newline⟩
  · exact Or.inl first
  · have inside := (List.getElem?_eq_some_iff.mp newline).1
    exact Or.inr ⟨later, by rw [List.getElem?_append_left inside, newline]⟩

/-- Behind the beginning, the bytes before a line end with a newline. -/
theorem StartsLine.exists_append (starts : StartsLine content place) (later : 0 < place) :
    ∃ before, content = before ++ 10 :: content.drop place ∧ before.length + 1 = place := by
  rcases starts with first | ⟨-, newline⟩
  · omega
  · obtain ⟨inside, value⟩ := List.getElem?_eq_some_iff.mp newline
    refine ⟨content.take (place - 1), ?_, ?_⟩
    · have rest : content.drop (place - 1) = 10 :: content.drop place := by
        rw [List.drop_eq_getElem_cons inside, value, Nat.sub_add_cancel later]
      rw [← rest, List.take_append_drop]
    · rw [List.length_take]
      omega

/-- A newline from a place on is behind the part of a line that starts there. -/
theorem StartsLine.lt_of_le {offset start : Nat} {line rest : List UInt8}
    (starts : StartsLine content start) (behind : offset < start) (whole : (10 : UInt8) ∉ line)
    (split : content.drop offset = line ++ rest) : offset + line.length < start := by
  rcases starts with first | ⟨-, newline⟩
  · omega
  · by_contra inside
    have place : offset + (start - 1 - offset) = start - 1 := by omega
    rw [← place, ← List.getElem?_drop, split, List.getElem?_append_left (by omega)] at newline
    exact whole (List.mem_of_getElem? newline)

/-! ### Dropping the first line -/

/-- No character of a whole line is a line feed. -/
theorem bne_newline {line : List Char} (whole : '\n' ∉ line) : ∀ c ∈ line, (c != '\n') = true := by
  intro c member
  rw [bne_iff_ne]
  rintro rfl
  exact whole member

/-- Without a line feed, dropping the first line leaves nothing. -/
theorem dropFirstLine_of_not_mem {line : List Char} (whole : '\n' ∉ line) :
    dropFirstLine line = [] := by
  rw [dropFirstLine, List.dropWhile_eq_nil_iff.mpr (bne_newline whole), List.drop_nil]

/-- Dropping the first line leaves what follows its line feed. -/
theorem dropFirstLine_append {line rest : List Char} (whole : '\n' ∉ line) :
    dropFirstLine (line ++ '\n' :: rest) = rest := by
  rw [dropFirstLine, List.dropWhile_append_of_pos (bne_newline whole)]
  rfl

/-- What bytes read as loses its first line: it reads from behind the first newline on. -/
theorem dropFirstLine_ofUtf8Lossy (bytes : List UInt8) :
    (∃ line rest, bytes = line ++ 10 :: rest ∧ (10 : UInt8) ∉ line ∧
      dropFirstLine (ofUtf8Lossy bytes) = ofUtf8Lossy rest) ∨
    (10 : UInt8) ∉ bytes ∧ dropFirstLine (ofUtf8Lossy bytes) = [] := by
  by_cases ends : (10 : UInt8) ∈ bytes
  · obtain ⟨line, rest, split, whole⟩ := List.eq_append_cons_of_mem ends
    refine Or.inl ⟨line, rest, split, whole, ?_⟩
    rw [split, ofUtf8Lossy_append_newline whole,
      dropFirstLine_append (newline_not_mem_ofUtf8Lossy whole)]
  · exact Or.inr ⟨ends, dropFirstLine_of_not_mem (newline_not_mem_ofUtf8Lossy ends)⟩

/-! ### The tail -/

variable {profile : BuildProfile}

/-- A sum that fits does not depend on how the program is built. -/
theorem BuildProfile.add?_of_lt {first second : UInt64} (profile : BuildProfile)
    (fits : first.toNat + second.toNat < UInt64.size) :
    profile.add? first second = some (first + second) := by
  cases profile with
  | release => rfl
  | debug => exact if_pos fits

/-- Below the greatest bound, one byte more does not overflow. -/
theorem toNat_add_one (bounded : bound.toNat + 1 < UInt64.size) :
    (bound + 1).toNat = bound.toNat + 1 := by
  rw [UInt64.toNat_add]
  exact Nat.mod_eq_of_lt bounded

/-- Below the greatest bound of all, a file that can be read has a tail, however the program is
built. -/
theorem FileTree.readTail_of_read {tree : FileTree} {path : String}
    (readable : tree.read path = .ok content) (bounded : bound.toNat + 1 < UInt64.size)
    (profile : BuildProfile) :
    tree.readTail profile path bound = some (.ok (tailOfWindow (bound + 1) content)) := by
  rw [readTail, readable, tailOfRead, tailOfContent, profile.add?_of_lt bounded]
  rfl

/-- Below the greatest bound of all, a read comes to an end, however the program is built. -/
theorem FileTree.exists_readTail (tree : FileTree) (profile : BuildProfile) (path : String)
    (bounded : bound.toNat + 1 < UInt64.size) :
    ∃ read, tree.readTail profile path bound = some read := by
  cases readable : tree.read path with
  | ok content => exact ⟨_, readTail_of_read readable bounded profile⟩
  | error cause =>
    rw [readTail, readable]
    cases cause with
    | isADirectory =>
      rw [tailOfRead, profile.add?_of_lt bounded]
      exact ⟨_, rfl⟩
    | _ => exact ⟨_, rfl⟩

/-- A content that is longer than the bound by one byte at most is read whole. -/
theorem tailOfWindow_of_le (bounded : bound.toNat + 1 < UInt64.size)
    (short : content.length ≤ bound.toNat + 1) :
    tailOfWindow (bound + 1) content = ofUtf8Lossy content := by
  unfold tailOfWindow
  rw [toNat_add_one bounded]
  dsimp only
  rw [Nat.sub_eq_zero_of_le short, if_pos rfl, List.drop_zero, List.take_of_length_le short]

/-- A longer content is read from a place in front of the bound, without the line at that place. -/
theorem tailOfWindow_of_lt (bounded : bound.toNat + 1 < UInt64.size)
    (long : bound.toNat + 1 < content.length) :
    tailOfWindow (bound + 1) content =
      dropFirstLine (ofUtf8Lossy (content.drop (content.length - (bound.toNat + 1)))) := by
  unfold tailOfWindow
  rw [toNat_add_one bounded]
  dsimp only
  rw [if_neg (by omega), List.take_of_length_le (by rw [List.length_drop]; omega)]

/-- The tail is what the bytes read as from the first start of a line within the bound on, or from
the end on if there is none. If the content is not longer than the bound by just one byte, the place
is within the bound. -/
theorem tailOfWindow_eq (content : List UInt8) (bounded : bound.toNat + 1 < UInt64.size) :
    ∃ place, (StartsLine content place ∨ place = content.length) ∧
      (∀ start, StartsLine content start → content.length ≤ start + bound.toNat → place ≤ start) ∧
      (content.length ≤ place + bound.toNat ∨ content.length = bound.toNat + 1) ∧
      tailOfWindow (bound + 1) content = ofUtf8Lossy (content.drop place) := by
  by_cases short : content.length ≤ bound.toNat + 1
  · refine ⟨0, Or.inl (Or.inl rfl), fun start _ _ => Nat.zero_le start, by omega, ?_⟩
    exact tailOfWindow_of_le bounded short
  rw [tailOfWindow_of_lt bounded (Nat.lt_of_not_le short)]
  generalize reached : content.length - (bound.toNat + 1) = offset
  rcases dropFirstLine_ofUtf8Lossy (content.drop offset) with
    ⟨line, rest, split, whole, dropped⟩ | ⟨endless, dropped⟩
  · have before : content = (content.take offset ++ line) ++ 10 :: rest := by
      rw [List.append_assoc, ← split, List.take_append_drop]
    have length : (content.take offset ++ line).length = offset + line.length := by
      rw [List.length_append, List.length_take]
      omega
    refine ⟨offset + line.length + 1, Or.inl ?_, fun start starts within => ?_, by omega, ?_⟩
    · have starts : StartsLine rest 0 := Or.inl rfl
      have placed := starts.append (content.take offset ++ line)
      rwa [length, ← before] at placed
    · exact starts.lt_of_le (by omega) whole split
    · rw [dropped, Nat.add_assoc, ← List.drop_drop, split]
      simp
  · refine ⟨content.length, Or.inr rfl, fun start starts within => ?_, by omega, ?_⟩
    · have behind := starts.lt_of_le (by omega) endless (List.append_nil _).symm
      rw [List.length_drop] at behind
      omega
    · rw [dropped, List.drop_length, ofUtf8Lossy_nil]

end QueryTail
