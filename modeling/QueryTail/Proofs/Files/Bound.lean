import QueryTail.Proofs.Files.Tail

/-!
# What a bounded read keeps of a file

The tail of a file starts where a line starts, or at the end. So no line that starts within the
bound is lost, no part of a line is returned, and the tail reads as the last part of what the whole
file reads as, wherever the bound falls (`readTail_startsLine`).

The tail is meant to be no longer than the bound. A file that is longer by just one byte is an
exception: the byte that is read in front of the bound is its first one, and the file is returned
whole as if it were within the bound (`readTail_withinBound`, `readTail_exceeds`).

A greater bound keeps all that a smaller one keeps, however the program is built
(`readTail_raised`). The exception is the greatest bound of all, for which there is no number for
one byte more: a release build reads nothing, and a debug build does not even come to an end
(`readTail_greatest`).
-/

namespace QueryTail

open Text

variable {content : List UInt8} {place : Nat} {bound : UInt64} {profile : BuildProfile}

/-! ### Lines -/

/-- A line starts inside the content or at its end. -/
theorem StartsLine.le_length (starts : StartsLine content place) : place ≤ content.length := by
  rcases starts with rfl | ⟨later, newline⟩
  · exact Nat.zero_le _
  · have inside := (List.getElem?_eq_some_iff.mp newline).1
    omega

/-- Reading may be cut at the start of a line. -/
theorem StartsLine.ofUtf8Lossy_eq (starts : StartsLine content place) :
    ofUtf8Lossy content =
      ofUtf8Lossy (content.take place) ++ ofUtf8Lossy (content.drop place) := by
  rcases Nat.eq_zero_or_pos place with rfl | later
  · rfl
  · obtain ⟨before, split, length⟩ := starts.exists_append later
    have front : content.take place = before ++ [10] := by
      rw [split, ← length, ← List.singleton_append, ← List.append_assoc,
        List.take_left' (by simp)]
    have line : ofUtf8Lossy (before ++ [10]) = ofUtf8Lossy before ++ ['\n'] :=
      ofUtf8Lossy_append before []
    calc ofUtf8Lossy content
        = ofUtf8Lossy (before ++ 10 :: content.drop place) := congrArg _ split
      _ = ofUtf8Lossy before ++ '\n' :: ofUtf8Lossy (content.drop place) :=
          ofUtf8Lossy_append before _
      _ = ofUtf8Lossy (content.take place) ++ ofUtf8Lossy (content.drop place) := by
          rw [front, line, List.append_assoc, List.singleton_append]

/-- The tail of a file is what its bytes read as from the start of a line on, or nothing. Every line
that starts within the bound is behind that place. What the whole file reads as ends with the
tail, so that a character that the bound cuts leaves no trace. -/
theorem readTail_startsLine (tree : FileTree) (profile : BuildProfile) (path : String)
    (content : List UInt8) (bound : UInt64) (readable : tree.read path = .ok content)
    (bounded : bound.toNat + 1 < UInt64.size) :
    ∃ place ≤ content.length,
      tree.readTail profile path bound = some (.ok (ofUtf8Lossy (content.drop place))) ∧
      (StartsLine content place ∨ place = content.length) ∧
      (∀ start, StartsLine content start → content.length ≤ start + bound.toNat →
        place ≤ start) ∧
      ofUtf8Lossy content =
        ofUtf8Lossy (content.take place) ++ ofUtf8Lossy (content.drop place) := by
  obtain ⟨place, starts, first, -, tail⟩ := tailOfWindow_eq content bounded
  have read : tree.readTail profile path bound = some (.ok (ofUtf8Lossy (content.drop place))) :=
    tail ▸ FileTree.readTail_of_read readable bounded profile
  rcases starts with line | rfl
  · exact ⟨place, line.le_length, read, Or.inl line, first, line.ofUtf8Lossy_eq⟩
  · exact ⟨content.length, Nat.le_refl _, read, Or.inr rfl, first, by simp⟩

/-- The byte in front of the bound is the second of a character. The line of that character is
dropped, and the next one reads as it does in the whole file. -/
theorem readTail_startsLine_cut :
    let content := utf8 "a\u00e9\nb\n".toList
    let tree := (FileTree.empty []).set ["log"] (some (.file content))
    tree.read "log" = .ok content ∧ (3 : UInt64).toNat + 1 < UInt64.size ∧
      tree.readTail .debug "log" 3 = some (.ok "b\n".toList) ∧
      ∃ place ≤ 4, (StartsLine content place ∨ place = content.length) ∧
        ofUtf8Lossy content = ofUtf8Lossy (content.take place) ++ "b\n".toList := by
  intro content tree
  have readable : tree.read "log" = .ok content := rfl
  have bounded : (3 : UInt64).toNat + 1 < UInt64.size := by decide
  obtain ⟨place, -, read, starts, first, parts⟩ :=
    readTail_startsLine tree .debug "log" content 3 readable bounded
  have line : StartsLine content 4 := Or.inr ⟨by decide, by decide⟩
  have kept : tree.readTail .debug "log" 3 = some (.ok "b\n".toList) := rfl
  have tail : ofUtf8Lossy (content.drop place) = "b\n".toList :=
    Except.ok.inj (Option.some.inj (read.symm.trans kept))
  rw [tail] at parts
  exact ⟨readable, bounded, kept, place, first 4 line (by decide), starts, parts⟩

/-! ### Length -/

/-- A text is what bytes at the end of a content read as, no more of them than the bound. -/
def WithinBound (bound : UInt64) (content : List UInt8) (text : List Char) : Prop :=
  ∃ kept, kept <:+ content ∧ kept.length ≤ bound.toNat ∧ text = ofUtf8Lossy kept

/-- A text within the bound has at most as many characters as the bound has bytes. -/
theorem WithinBound.length_le {text : List Char} (within : WithinBound bound content text) :
    text.length ≤ bound.toNat := by
  obtain ⟨kept, -, short, rfl⟩ := within
  exact (length_ofUtf8Lossy_le kept).trans short

/-- At the greatest bound of all, one byte more is nothing after the sum wraps. -/
theorem add_one_of_greatest (greatest : bound.toNat + 1 = UInt64.size) : bound + 1 = 0 := by
  refine UInt64.toNat_inj.mp ?_
  rw [UInt64.toNat_add]
  exact Nat.mod_eq_zero_of_dvd (greatest ▸ Nat.dvd_refl _)

/-- A window of no bytes has an empty text. -/
theorem tailOfWindow_zero (content : List UInt8) : tailOfWindow 0 content = [] := by
  have none : (0 : UInt64).toNat = 0 := rfl
  unfold tailOfWindow
  dsimp only
  rw [none, List.take_zero, ofUtf8Lossy_nil]
  exact ite_self _

/-- A release build gives a tail for every bound. -/
theorem FileTree.readTail_release {tree : FileTree} {path : String}
    (readable : tree.read path = .ok content) (bound : UInt64) :
    tree.readTail .release path bound = some (.ok (tailOfWindow (bound + 1) content)) := by
  rw [readTail, readable]
  rfl

/-- At the greatest bound of all the thread of a debug build ends without a result. -/
theorem FileTree.readTail_debug_of_greatest {tree : FileTree} {path : String}
    (readable : tree.read path = .ok content) (greatest : bound.toNat + 1 = UInt64.size) :
    tree.readTail .debug path bound = none := by
  have ends : BuildProfile.debug.add? bound 1 = none := if_neg (Nat.not_lt.mpr greatest.ge)
  rw [readTail, readable, tailOfRead, tailOfContent, ends]
  rfl

/-- For every other length, the text of a window of one byte more is within the bound. -/
theorem withinBound_tailOfWindow (bounded : bound.toNat + 1 < UInt64.size)
    (other : content.length ≠ bound.toNat + 1) :
    WithinBound bound content (tailOfWindow (bound + 1) content) := by
  obtain ⟨place, -, -, within, tail⟩ := tailOfWindow_eq content bounded
  have short := within.resolve_right other
  refine ⟨content.drop place, List.drop_suffix place content, ?_, tail⟩
  rw [List.length_drop]
  omega

/-- A read either ends the thread, which needs a debug build and the greatest bound of all, or gives
a text. The text is no longer than the bound, unless the file is longer than the bound by just one
byte. Such a file is returned whole, and if it is ASCII, that is more than fits the bound. -/
theorem readTail_withinBound (tree : FileTree) (profile : BuildProfile) (path : String)
    (content : List UInt8) (bound : UInt64) (readable : tree.read path = .ok content)
    (sized : content.length < UInt64.size) :
    (profile = .debug ∧ bound.toNat + 1 = UInt64.size ∧
      tree.readTail profile path bound = none) ∨
    ∃ text, tree.readTail profile path bound = some (.ok text) ∧
      (content.length ≠ bound.toNat + 1 → WithinBound bound content text) ∧
      (content.length = bound.toNat + 1 → text = ofUtf8Lossy content ∧
        ((∀ byte ∈ content, byte.toNat < 0x80) → ¬WithinBound bound content text)) := by
  rcases Nat.lt_or_eq_of_le (Nat.succ_le_of_lt bound.toNat_lt_size) with bounded | greatest
  · right
    refine ⟨_, FileTree.readTail_of_read readable bounded profile,
      withinBound_tailOfWindow bounded, fun longer => ?_⟩
    have whole : tailOfWindow (bound + 1) content = ofUtf8Lossy content :=
      tailOfWindow_of_le bounded longer.le
    refine ⟨whole, fun ascii within => ?_⟩
    have length := within.length_le
    rw [whole, length_ofUtf8Lossy_of_ascii ascii, longer] at length
    exact absurd length (Nat.not_succ_le_self _)
  · cases profile with
    | debug => exact Or.inl ⟨rfl, greatest, FileTree.readTail_debug_of_greatest readable greatest⟩
    | release =>
      right
      refine ⟨[], ?_, fun _ => ⟨[], List.nil_suffix, Nat.zero_le _, rfl⟩, fun longer => ?_⟩
      · rw [FileTree.readTail_release readable, add_one_of_greatest greatest, tailOfWindow_zero]
      · exact absurd (longer.trans greatest) sized.ne

/-- A bound of three bytes cuts the first line, which is dropped. -/
theorem readTail_withinBound_cut :
    let content := utf8 "ab\nc\n".toList
    let tree := (FileTree.empty []).set ["log"] (some (.file content))
    tree.read "log" = .ok content ∧ content.length < UInt64.size ∧
      content.length ≠ (3 : UInt64).toNat + 1 ∧
      ∃ text, tree.readTail .debug "log" 3 = some (.ok text) ∧ WithinBound 3 content text := by
  intro content tree
  have readable : tree.read "log" = .ok content := rfl
  have sized : content.length < UInt64.size := by decide
  have other : content.length ≠ (3 : UInt64).toNat + 1 := by decide
  obtain ⟨-, greatest, -⟩ | ⟨text, read, within, -⟩ :=
    readTail_withinBound tree .debug "log" content 3 readable sized
  · exact absurd greatest (by decide)
  · exact ⟨readable, sized, other, text, read, within other⟩

/-- A bound of four bytes cuts the first line of the same file as well, but the whole file is
returned: five characters, which no four bytes read as. -/
theorem readTail_exceeds :
    let content := utf8 "ab\nc\n".toList
    let tree := (FileTree.empty []).set ["log"] (some (.file content))
    (∀ profile, tree.readTail profile "log" 4 = some (.ok "ab\nc\n".toList)) ∧
      ¬WithinBound 4 content "ab\nc\n".toList := by
  intro content tree
  refine ⟨fun profile => by cases profile <;> rfl, fun within => ?_⟩
  have length := within.length_le
  exact absurd length (by decide)

/-! ### Raising the bound -/

/-- The start of a line is the start of a line of what is left from an earlier place on. -/
theorem StartsLine.drop {first : Nat} (starts : StartsLine content place) (before : first ≤ place) :
    StartsLine (content.drop first) (place - first) := by
  rcases Nat.eq_or_lt_of_le before with rfl | before
  · exact Or.inl (Nat.sub_self _)
  · rcases starts with rfl | ⟨-, newline⟩
    · exact absurd before (Nat.not_lt_zero _)
    · have behind : first + (place - first - 1) = place - 1 := by omega
      exact Or.inr ⟨Nat.sub_pos_of_lt before, by rw [List.getElem?_drop, behind, newline]⟩

/-- What bytes read as from an earlier place on ends with what they read as from a line on. -/
theorem StartsLine.ofUtf8Lossy_drop_suffix {first : Nat} (starts : StartsLine content place)
    (before : first ≤ place) :
    ofUtf8Lossy (content.drop place) <:+ ofUtf8Lossy (content.drop first) := by
  have parts := (starts.drop before).ofUtf8Lossy_eq
  rw [List.drop_drop, Nat.add_sub_cancel' before] at parts
  exact ⟨_, parts.symm⟩

/-- Below the greatest bound of all, a greater bound keeps all that a smaller one keeps. -/
theorem tailOfWindow_suffix_of_le {lower upper : UInt64} (bounded : upper.toNat + 1 < UInt64.size)
    (raised : lower ≤ upper) :
    tailOfWindow (lower + 1) content <:+ tailOfWindow (upper + 1) content := by
  rcases Nat.eq_or_lt_of_le (UInt64.le_iff_toNat_le.mp raised) with same | below
  · exact UInt64.toNat_inj.mp same ▸ List.suffix_refl _
  · obtain ⟨place, starts, -, within, tail⟩ :=
      tailOfWindow_eq content (Nat.lt_trans (Nat.succ_lt_succ below) bounded)
    obtain ⟨first, -, least, -, longer⟩ := tailOfWindow_eq content bounded
    rw [tail, longer]
    rcases starts with line | rfl
    · refine line.ofUtf8Lossy_drop_suffix ?_
      rcases within with within | byOne
      · exact least place line (by omega)
      · have whole := least 0 (Or.inl rfl) (by omega)
        omega
    · rw [List.drop_length, ofUtf8Lossy_nil]
      exact List.nil_suffix

/-- A bound that is no less than the length keeps the whole file, and of two bounds the greater
keeps all that the smaller keeps, however the program is built. The greatest bound of all is an
exception to both: a release build keeps nothing, and a debug build does not even give that. -/
theorem readTail_raised (tree : FileTree) (path : String) (content : List UInt8)
    (lower upper : UInt64) (readable : tree.read path = .ok content) (raised : lower ≤ upper) :
    (upper.toNat + 1 < UInt64.size → ∀ profile, ∃ less more,
      tree.readTail profile path lower = some (.ok less) ∧
      tree.readTail profile path upper = some (.ok more) ∧
      less <:+ more ∧ (content.length ≤ upper.toNat → more = ofUtf8Lossy content)) ∧
    (upper.toNat + 1 = UInt64.size →
      (∃ less more,
        tree.readTail .release path lower = some (.ok less) ∧
        tree.readTail .release path upper = some (.ok more) ∧
        more = [] ∧ (less <:+ more ↔ less = []) ∧ (more = ofUtf8Lossy content ↔ content = [])) ∧
      tree.readTail .debug path upper = none) := by
  refine ⟨fun bounded profile => ?_, fun greatest => ⟨?_, ?_⟩⟩
  · have below : lower.toNat + 1 < UInt64.size :=
      Nat.lt_of_le_of_lt (Nat.succ_le_succ (UInt64.le_iff_toNat_le.mp raised)) bounded
    exact ⟨_, _, FileTree.readTail_of_read readable below profile,
      FileTree.readTail_of_read readable bounded profile,
      tailOfWindow_suffix_of_le bounded raised,
      fun fits => tailOfWindow_of_le bounded (Nat.le_succ_of_le fits)⟩
  · refine ⟨_, [], FileTree.readTail_release readable lower, ?_, rfl, List.suffix_nil, ?_⟩
    · rw [FileTree.readTail_release readable upper, add_one_of_greatest greatest,
        tailOfWindow_zero]
    · rw [eq_comm, ofUtf8Lossy_eq_nil_iff]
  · exact FileTree.readTail_debug_of_greatest readable greatest

/-- Three bytes hold the last line only, five the whole file. -/
theorem readTail_raised_whole :
    let content := utf8 "ab\nc\n".toList
    let tree := (FileTree.empty []).set ["log"] (some (.file content))
    tree.read "log" = .ok content ∧ (3 : UInt64) ≤ 5 ∧ (5 : UInt64).toNat + 1 < UInt64.size ∧
      content.length ≤ (5 : UInt64).toNat ∧
      tree.readTail .debug "log" 3 = some (.ok "c\n".toList) ∧
      ∃ more, tree.readTail .debug "log" 5 = some (.ok more) ∧ "c\n".toList <:+ more ∧
        more = ofUtf8Lossy content := by
  intro content tree
  have readable : tree.read "log" = .ok content := rfl
  have raised : (3 : UInt64) ≤ 5 := by decide
  have bounded : (5 : UInt64).toNat + 1 < UInt64.size := by decide
  have fits : content.length ≤ (5 : UInt64).toNat := by decide
  have kept : tree.readTail .debug "log" 3 = some (.ok "c\n".toList) := rfl
  obtain ⟨less, more, read, readMore, suffix, whole⟩ :=
    (readTail_raised tree "log" content 3 5 readable raised).1 bounded .debug
  obtain rfl : "c\n".toList = less := Except.ok.inj (Option.some.inj (kept.symm.trans read))
  exact ⟨readable, raised, bounded, fits, kept, more, readMore, suffix, whole fits⟩

/-- Two bytes hold a whole file. Raised to the greatest bound there is, which any file is within,
the read gives nothing in a release build, and in a debug build its thread ends. -/
theorem readTail_greatest :
    let content := utf8 "a\n".toList
    let tree := (FileTree.empty []).set ["log"] (some (.file content))
    let greatest : UInt64 := 18446744073709551615
    (2 : UInt64) ≤ greatest ∧ content.length ≤ greatest.toNat ∧
      (∀ profile, tree.readTail profile "log" 2 = some (.ok "a\n".toList)) ∧
      tree.readTail .release "log" greatest = some (.ok []) ∧ ¬"a\n".toList <:+ [] ∧
      [] ≠ ofUtf8Lossy content ∧ tree.readTail .debug "log" greatest = none := by
  intro content tree greatest
  have readable : tree.read "log" = .ok content := rfl
  have nothing : tree.readTail .release "log" greatest = some (.ok []) := by
    rw [FileTree.readTail_release readable, add_one_of_greatest rfl, tailOfWindow_zero]
  exact ⟨by decide, by decide, fun profile => by cases profile <;> rfl, nothing, by decide,
    by decide, FileTree.readTail_debug_of_greatest readable rfl⟩

end QueryTail
