import QueryTail.Proofs.Entry.Page

/-!
# Pages as they are defined

A page is made by a scan that starts at the last line and stops when the page is full. Its
definition needs no scan: each line is read for itself and holds an entry, is bad or is blank, and
the page has the last entries and counts the bad lines behind the last of them (`IsPageOf`).

That the scan agrees with the definition (`ofLog_isPageOf`) is proved by what one line adds
(`LineContent.tells_ofLine`) and, from it, what a run of lines adds before the page is full
(`malformed_collect_append`).
-/

namespace QueryTail

open Text

variable {node : String} {room : Nat} {line : List Char} {newer : List (List Char)}

/-! ### Lines -/

/-- The lines of a text, first line first. What is behind the last newline counts as a line; if
there is nothing it is a blank one. -/
def textLines (text : String) : List (List Char) :=
  text.toList.splitOn '\n'

/-- A line without the blanks at its ends, which include a carriage return; none if the line is
blank. -/
def lineBody? (line : List Char) : Option String :=
  if trim line = [] then none else some (String.ofList (trim line))

/-- The entry that a line of a node's log holds: what it decodes to if it is not too long. An entry
without a source is the node's own. -/
def decodeLine? (node : String) (line : List Char) : Option Entry :=
  (lineBody? line).bind fun body =>
    if body.utf8ByteSize ≤ 65536 then
      (Entry.decode? body).map fun entry =>
        { entry with source := if entry.source = "" then node else entry.source }
    else none

/-- A line that is not blank and is too long or does not decode. -/
def isBad (line : List Char) : Bool :=
  (lineBody? line).any fun body => 65536 < body.utf8ByteSize || (Entry.decode? body).isNone

/-- All entries of a text, newest first. -/
def heldEntries (node : String) (text : String) : List Entry :=
  ((textLines text).filterMap (decodeLine? node)).reverse

/-- An entry without a source is attributed to the node that it was read from. -/
theorem attributedTo_eq (node : String) (entry : Entry) :
    entry.attributedTo node =
      { entry with source := if entry.source = "" then node else entry.source } := by
  unfold Entry.attributedTo
  by_cases empty : entry.source = "" <;> simp [empty]

/-- What the content of a line tells about the line. -/
def LineContent.Tells (node : String) (line : List Char) : LineContent → Prop
  | .blank => decodeLine? node line = none ∧ isBad line = false
  | .bad _ => decodeLine? node line = none ∧ isBad line = true
  | .entry held => decodeLine? node line = some held ∧ isBad line = false

/-- What a line is found to be tells of that line. -/
theorem LineContent.tells_ofLine (node : String) (line : List Char) :
    (ofLine node line).Tells node line := by
  unfold ofLine
  dsimp only
  by_cases blank : trim line = []
  · have body : lineBody? line = none := if_pos blank
    rw [if_pos (List.isEmpty_iff.mpr blank)]
    exact ⟨by simp [decodeLine?, body], by simp [isBad, body]⟩
  · have body : lineBody? line = some (String.ofList (trim line)) := if_neg blank
    rw [if_neg (by simpa using blank)]
    by_cases long : maxLineBytes < (String.ofList (trim line)).utf8ByteSize
    · rw [if_pos long]
      have fails : ¬(String.ofList (trim line)).utf8ByteSize ≤ 65536 := Nat.not_le.mpr long
      exact ⟨by simp [decodeLine?, body, fails], by simp [isBad, body, Nat.not_le.mp fails]⟩
    · rw [if_neg long]
      have fits : (String.ofList (trim line)).utf8ByteSize ≤ 65536 := Nat.not_lt.mp long
      cases decoded : Entry.decode? (String.ofList (trim line)) with
      | none => exact ⟨by simp [decodeLine?, body, decoded], by simp [isBad, body, decoded]⟩
      | some held =>
        exact ⟨by simp [decodeLine?, body, decoded, fits, attributedTo_eq],
          by simp [isBad, body, decoded, fits]⟩

/-- A line counts as an entry when it decodes to one. -/
theorem ofLine?_eq_decodeLine? (node : String) (line : List Char) :
    Entry.ofLine? node line = decodeLine? node line := by
  have tells := LineContent.tells_ofLine node line
  unfold Entry.ofLine?
  cases content : LineContent.ofLine node line with
  | blank | bad _ | entry _ =>
    rw [content] at tells
    exact tells.1.symm

/-! ### Pages -/

namespace Page

/-- What a page of some lines is, first line first. -/
structure IsPageOf (page : Page) (node : String) (size : Nat) (lines : List (List Char)) :
    Prop where
  entries : page.entries = (lines.filterMap (decodeLine? node)).reverse.take size
  /-- If there are fewer entries than the page has room for, all bad lines count. -/
  malformed_of_few : (lines.filterMap (decodeLine? node)).length < size →
    page.malformed = lines.countP isBad
  /-- Otherwise the bad lines behind the line of the last entry on the page count. -/
  malformed_of_full : ∀ older line newer, lines = older ++ line :: newer →
    (decodeLine? node line).isSome → (newer.filterMap (decodeLine? node)).length + 1 = size →
    page.malformed = newer.countP isBad
  malformed_of_zero : size = 0 → page.malformed = 0

/-- Collecting looks at the newest line first, and stops counting once there is no room. -/
theorem collect_cons (node : String) (room : Nat) (found : List Entry) (bad : List BadLine)
    (line : List Char) (older : List (List Char)) :
    collect node (room + 1) found bad (line :: older) =
      match LineContent.ofLine node line with
      | .blank => collect node (room + 1) found bad older
      | .bad line => collect node (room + 1) found (line :: bad) older
      | .entry entry => collect node room (entry :: found) bad older := rfl

/-- The bad lines that were met before a scan are counted on top of those that it meets. -/
theorem malformed_collect (room : Nat) (found : List Entry) (bad : List BadLine)
    (lines : List (List Char)) :
    (collect node room found bad lines).malformed =
      bad.length + (collect node room [] [] lines).malformed := by
  induction lines generalizing room found bad with
  | nil => cases room <;> simp [collect, malformed]
  | cons line older ih =>
    cases room with
    | zero => simp [collect, malformed]
    | succ room =>
      rw [collect_cons, collect_cons]
      cases LineContent.ofLine node line with
      | blank => exact ih (room + 1) found bad
      | bad line' =>
        dsimp only
        rw [ih (room + 1) found (line' :: bad), ih (room + 1) [] [line'], List.length_cons,
          List.length_singleton, Nat.add_assoc]
      | entry entry =>
        dsimp only
        rw [ih room (entry :: found) bad, ih room [entry] [], List.length_nil, Nat.zero_add]

/-- While the page is not full the scan counts every bad line and makes room for every entry. -/
theorem malformed_collect_append (found : List Entry) (bad : List BadLine)
    (rest : List (List Char)) (few : (newer.filterMap (decodeLine? node)).length < room) :
    (collect node room found bad (newer ++ rest)).malformed =
      bad.length + newer.countP isBad +
        (collect node (room - (newer.filterMap (decodeLine? node)).length) [] []
          rest).malformed := by
  induction newer generalizing room found bad with
  | nil =>
    rw [List.nil_append, malformed_collect]
    rfl
  | cons line older ih =>
    obtain ⟨room, rfl⟩ := Nat.exists_eq_add_one_of_ne_zero (Nat.ne_zero_of_lt few)
    have tells := LineContent.tells_ofLine node line
    rw [List.cons_append, collect_cons]
    cases content : LineContent.ofLine node line with
    | blank =>
      rw [content] at tells
      rw [List.filterMap_cons_none tells.1] at few ⊢
      rw [List.countP_cons_of_neg (by simp [tells.2])]
      exact ih found bad few
    | bad line' =>
      rw [content] at tells
      rw [List.filterMap_cons_none tells.1] at few ⊢
      dsimp only
      rw [ih found (line' :: bad) few, List.countP_cons_of_pos tells.2, List.length_cons]
      omega
    | entry entry =>
      rw [content] at tells
      rw [List.filterMap_cons_some tells.1, List.length_cons] at few ⊢
      dsimp only
      rw [ih (entry :: found) bad (Nat.lt_of_succ_lt_succ few),
        List.countP_cons_of_neg (by simp [tells.2]), Nat.add_sub_add_right]

/-- An entry for which there is still room, but no more than that, fills the page. -/
theorem malformed_collect_full (holds : (decodeLine? node line).isSome) (older : List (List Char)) :
    (collect node 1 [] [] (line :: older)).malformed = 0 := by
  have tells := LineContent.tells_ofLine node line
  rw [collect_cons]
  cases content : LineContent.ofLine node line with
  | blank | bad _ =>
    rw [content] at tells
    simp [tells.1] at holds
  | entry entry => simp [collect, malformed]

/-- The entries of a page are the newest entries of the log, as many as there is room for. -/
theorem entries_ofLog (content node : String) (size : Nat) :
    (ofLog content node size).entries = (heldEntries node content).take size := by
  rw [ofLog, entries_ofText, heldEntries, textLines, List.filterMap_reverse,
    funext (ofLine?_eq_decodeLine? node)]

/-- The bad lines of a page are those found while collecting from the newest line on. -/
theorem malformed_ofLog (content node : String) (size : Nat) :
    (ofLog content node size).malformed =
      (collect node size [] [] (textLines content).reverse).malformed := by
  unfold ofLog ofText textLines
  split
  · next none => rw [none]; cases (content.toList.splitOn '\n').reverse <;> rfl
  · rw [linesFromEnd_eq]

/-- What a log is read as is a page of its lines. -/
theorem isPageOf (content node : String) (size : Nat) :
    (ofLog content node size).IsPageOf node size (textLines content) where
  entries := entries_ofLog content node size
  malformed_of_few few := by
    rw [← List.length_reverse, ← List.filterMap_reverse] at few
    have counted := malformed_collect_append [] [] [] few
    rw [List.append_nil] at counted
    rw [malformed_ofLog, counted]
    cases size - _ <;> simp [collect, malformed]
  malformed_of_full older line newer split holds full := by
    rw [← List.length_reverse, ← List.filterMap_reverse] at full
    have counted := malformed_collect_append [] [] (line :: older.reverse)
      (Nat.lt_of_succ_le (Nat.le_of_eq full))
    rw [malformed_ofLog, split, List.reverse_append, List.reverse_cons, List.append_assoc,
      List.singleton_append, counted, ← full, Nat.add_sub_cancel_left,
      malformed_collect_full holds]
    simp
  malformed_of_zero none := by rw [none]; rfl

/-- The entries of a text behind a newline come before those in front of it. -/
theorem heldEntries_append (node before after : String) :
    heldEntries node (before ++ "\n" ++ after) =
      heldEntries node after ++ heldEntries node (before ++ "\n") := by
  have blank : decodeLine? node [] = none := rfl
  simp [heldEntries, textLines, List.splitOn_append_cons_self, blank]

/-- A page is what its definition says. So a smaller page is the start of a larger one, and the
page of a log that goes on behind a whole line has the new entries in front of the old ones: no line
has an influence on what another one holds. -/
theorem ofLog_isPageOf (content node : String) (size : Nat) :
    (ofLog content node size).IsPageOf node size (textLines content) ∧
    (∀ larger, size ≤ larger →
      (ofLog content node size).entries = (ofLog content node larger).entries.take size) ∧
    ∀ later : String, (ofLog (content ++ "\n" ++ later) node size).entries =
      (heldEntries node later ++ heldEntries node (content ++ "\n")).take size := by
  refine ⟨isPageOf content node size, fun larger le => ?_, fun later => ?_⟩
  · rw [entries_ofLog, entries_ofLog, List.take_take, Nat.min_eq_left le]
  · rw [entries_ofLog, heldEntries_append]

/-- A page of two entries ends with the first entry of the log, so that the bad line in front of it
does not count. -/
theorem ofLog_isPageOf_stops :
    let content := "?\n\x7b\"sequence\":1\x7d\n\x7b\n\n \x7b\"sequence\":2\x7d\r\n[]"
    2 ≤ 3 ∧ (ofLog content "node" 2).entries = (ofLog content "node" 3).entries.take 2 ∧
      (ofLog content "node" 2).malformed = 2 := by
  intro content
  obtain ⟨page, start, -⟩ := ofLog_isPageOf content "node" 2
  have lines : textLines content =
      ["?".toList] ++ "\x7b\"sequence\":1\x7d".toList ::
        ["\x7b".toList, [], " \x7b\"sequence\":2\x7d\r".toList, "[]".toList] := by
    decide +kernel
  have counted := page.malformed_of_full _ _ _ lines (by decide +kernel) (by decide +kernel)
  refine ⟨by decide, start 3 (by decide), ?_⟩
  rw [counted]
  decide +kernel

end Page

end QueryTail
