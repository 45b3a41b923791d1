import QueryTail.LogSource
import QueryTail.Proofs.Entry.Page
import QueryTail.Proofs.Files.Tail

/-!
# Pages of bounded reads

A page is cut out of the tail of a log instead of the whole log. The lines of the tail are the last
lines of the log, so that the page is the start of the page of the whole log. Nothing is missing if
all entries of the latter are on lines that start within the bound.

To say where the entries of a page are, `placedEntries` keeps the place of its line with every
entry.
-/

namespace QueryTail

open Text

variable {node : String} {content : List UInt8}

/-! ### Lines and entries with their places -/

/-- Lines with the places at which they start, if the first starts at the given place and a newline
ends each. -/
def placedLines (start : Nat) : List (List UInt8) → List (Nat × List UInt8)
  | [] => []
  | line :: rest => (start, line) :: placedLines (start + line.length + 1) rest

/-- The entry that a line holds, with the place of the line. -/
def entryAt? (node : String) (placed : Nat × List UInt8) : Option (Nat × Entry) :=
  (Entry.ofLine? node (ofUtf8Lossy placed.2)).map (placed.1, ·)

/-- The entries of a content that starts at a place, newest first, with the places of their
lines. -/
def placedEntriesFrom (start : Nat) (node : String) (content : List UInt8) : List (Nat × Entry) :=
  (placedLines start (content.splitOn 10)).reverse.filterMap (entryAt? node)

/-- The entries of a content, newest first, with the places of their lines. -/
def placedEntries (node : String) (content : List UInt8) : List (Nat × Entry) :=
  placedEntriesFrom 0 node content

/-- How many bytes lines take up if a newline ends each. -/
def extent : List (List UInt8) → Nat
  | [] => 0
  | line :: rest => line.length + 1 + extent rest

/-- The lines of two parts are placed one part behind the other. -/
theorem placedLines_append (start : Nat) (first second : List (List UInt8)) :
    placedLines start (first ++ second) =
      placedLines start first ++ placedLines (start + extent first) second := by
  induction first generalizing start with
  | nil => rfl
  | cons line rest ih =>
    simp only [List.cons_append, placedLines, ih, extent, Nat.add_assoc]

/-- The lines of a content take up its bytes and a newline at its end. -/
theorem extent_splitOn (bytes : List UInt8) : extent (bytes.splitOn 10) = bytes.length + 1 := by
  induction bytes using lines_induction with
  | last line whole => rw [List.splitOn_eq_singleton whole, extent, extent, Nat.add_zero]
  | more line rest whole ih =>
    rw [List.splitOn_append_cons_self_of_not_mem whole, extent, ih, List.length_append,
      List.length_cons, Nat.add_right_comm, Nat.add_assoc]

/-- Placing lines keeps them and their order. -/
theorem map_snd_placedLines (start : Nat) (lines : List (List UInt8)) :
    (placedLines start lines).map Prod.snd = lines := by
  induction lines generalizing start with
  | nil => rfl
  | cons line rest ih => rw [placedLines, List.map_cons, ih]

/-- The places at which lines are put are those at which they start. -/
theorem startsLine_of_mem {start : Nat} {placed : Nat × List UInt8}
    (member : placed ∈ placedLines start (content.splitOn 10)) :
    ∃ place, placed.1 = start + place ∧ place ≤ content.length ∧ StartsLine content place := by
  induction content using lines_induction generalizing start with
  | last line whole =>
    rw [List.splitOn_eq_singleton whole, placedLines, placedLines, List.mem_singleton] at member
    exact ⟨0, by rw [member, Nat.add_zero], Nat.zero_le _, Or.inl rfl⟩
  | more line rest whole ih =>
    rw [List.splitOn_append_cons_self_of_not_mem whole, placedLines, List.mem_cons] at member
    rcases member with first | later
    · exact ⟨0, by rw [first, Nat.add_zero], Nat.zero_le _, Or.inl rfl⟩
    · obtain ⟨place, same, inside, starts⟩ := ih later
      refine ⟨line.length + 1 + place, by omega, ?_, starts.append line⟩
      rw [List.length_append, List.length_cons]
      omega

/-- An entry has the place of its line in the content, counted from where the content starts. -/
theorem place_of_mem_placedEntriesFrom {start : Nat} {placed : Nat × Entry}
    (member : placed ∈ placedEntriesFrom start node content) :
    ∃ place, placed.1 = start + place ∧ place ≤ content.length ∧ StartsLine content place := by
  obtain ⟨line, held, found⟩ := List.mem_filterMap.mp member
  obtain ⟨entry, -, rfl⟩ := Option.map_eq_some_iff.mp found
  exact startsLine_of_mem (List.mem_reverse.mp held)

/-- Where the content starts matters for the places only. -/
theorem map_snd_placedEntriesFrom (start : Nat) (node : String) (content : List UInt8) :
    (placedEntriesFrom start node content).map Prod.snd =
      (content.splitOn 10).reverse.filterMap (Entry.ofLine? node ∘ ofUtf8Lossy) := by
  have entries : Option.map Prod.snd ∘ entryAt? node =
      (Entry.ofLine? node ∘ ofUtf8Lossy) ∘ Prod.snd := by
    funext placed
    simp [entryAt?, Function.comp_def]
  rw [placedEntriesFrom, List.map_filterMap, ← Function.comp_def, entries, ← List.filterMap_map,
    List.map_reverse, map_snd_placedLines]

/-- The page of a content holds its last entries. -/
theorem entries_ofText_ofUtf8Lossy (start : Nat) (node : String) (size : Nat)
    (content : List UInt8) :
    (Page.ofText node size (ofUtf8Lossy content)).entries =
      ((placedEntriesFrom start node content).take size).map Prod.snd := by
  rw [Page.entries_ofText, splitOn_ofUtf8Lossy, List.map_take, map_snd_placedEntriesFrom,
    ← List.map_reverse, List.filterMap_map]

/-- Behind a newline, the entries are those behind it and those before it. -/
theorem placedEntriesFrom_append (start : Nat) (node : String) (before after : List UInt8) :
    placedEntriesFrom start node (before ++ 10 :: after) =
      placedEntriesFrom (start + before.length + 1) node after ++
        placedEntriesFrom start node before := by
  rw [placedEntriesFrom, List.splitOn_append_cons_self, placedLines_append, extent_splitOn,
    List.reverse_append, List.filterMap_append]
  rfl

/-! ### Bounded reads -/

/-- The entries of the tail are the newest ones, up to some entry. Those that are left out are on
lines that start before the bound. -/
theorem exists_placedEntries_append {bound : UInt64} (bounded : bound.toNat + 1 < UInt64.size)
    (node : String) (content : List UInt8) :
    ∃ newer older, placedEntries node content = newer ++ older ∧
      (∀ size, (Page.ofText node size (tailOfWindow (bound + 1) content)).entries =
        (newer.take size).map Prod.snd) ∧
      ∀ placed ∈ older, placed.1 + bound.toNat < content.length := by
  obtain ⟨place, starts, first, -, tail⟩ := tailOfWindow_eq content bounded
  rw [tail]
  by_cases line : StartsLine content place
  · rcases Nat.eq_zero_or_pos place with rfl | later
    · refine ⟨placedEntries node content, [], (List.append_nil _).symm, fun size => ?_, by simp⟩
      exact entries_ofText_ofUtf8Lossy 0 node size content
    · obtain ⟨before, split, length⟩ := line.exists_append later
      refine ⟨placedEntriesFrom (0 + before.length + 1) node (content.drop place),
        placedEntriesFrom 0 node before, ?_,
        fun size => entries_ofText_ofUtf8Lossy _ node size _, ?_⟩
      · rw [← placedEntriesFrom_append, ← split, placedEntries]
      · intro placed member
        obtain ⟨start, same, inside, lineBefore⟩ := place_of_mem_placedEntriesFrom member
        by_contra within
        have lineStarts := lineBefore.append_right (10 :: content.drop place)
        rw [← split] at lineStarts
        have bounds := first start lineStarts (by omega)
        omega
  · have ended : place = content.length := starts.resolve_left line
    refine ⟨[], placedEntries node content, (List.nil_append _).symm, fun size => ?_, ?_⟩
    · rw [ended, List.drop_length, ofUtf8Lossy_nil, Page.entries_ofText_nil, List.take_nil,
        List.map_nil]
    · intro placed member
      obtain ⟨start, same, inside, lineStarts⟩ := place_of_mem_placedEntriesFrom member
      by_contra within
      have bounds := first start lineStarts (by omega)
      have last : start = place := by omega
      exact line (last ▸ lineStarts)

namespace LogSource

/-- Below the greatest bound of all, a fetch from a readable log gives the page of its tail. -/
theorem fetch_of_read {source : LogSource} {files : FileTree} {path : String}
    (known : source.path? node = some path) (readable : files.read path = .ok content)
    (bounded : source.readBound.toNat + 1 < UInt64.size) (size : Nat) :
    source.fetch files node size =
      some (.ok (Page.ofText node size (tailOfWindow (source.readBound + 1) content)).entries) := by
  unfold fetch fetchPage
  rw [known]
  dsimp only
  rw [FileTree.readTail_of_read readable bounded]
  rfl

/-- The entries that are fetched from a readable log are the first of the page of the whole log.
They are all of it if every entry of that page is on a line that starts within the bound. -/
theorem fetch_isPrefix_page (source : LogSource) (files : FileTree) (node path : String)
    (content : List UInt8) (size : Nat) (known : source.path? node = some path)
    (readable : files.read path = .ok content)
    (bounded : source.readBound.toNat + 1 < UInt64.size) :
    let page := (Page.ofText node size (ofUtf8Lossy content)).entries
    let placed := (placedEntries node content).take size
    page = placed.map Prod.snd ∧
      ∃ fetched, source.fetch files node size = some (.ok fetched) ∧ fetched <+: page ∧
        ((∀ entry ∈ placed, content.length ≤ entry.1 + source.readBound.toNat) →
          fetched = page) := by
  intro page placed
  have whole : page = placed.map Prod.snd := entries_ofText_ofUtf8Lossy 0 node size content
  refine ⟨whole, _, fetch_of_read known readable bounded size, ?_⟩
  obtain ⟨newer, older, split, tail, before⟩ := exists_placedEntries_append bounded node content
  rw [tail, whole]
  constructor
  · refine List.IsPrefix.map Prod.snd ?_
    simp only [placed, split, List.take_append]
    exact List.prefix_append _ _
  · intro within
    simp only [placed, split, List.take_append] at within ⊢
    have none : older.take (size - newer.length) = [] := by
      rw [List.eq_nil_iff_forall_not_mem]
      intro entry member
      have inside := within entry (List.mem_append_right _ member)
      have outside := before entry (List.mem_of_mem_take member)
      omega
    rw [none, List.append_nil]

/-- The bound falls into the first character of a log. What is left of the first line would be an
entry without the character, but is dropped with it. -/
theorem fetch_isPrefix_page_cut :
    let content := utf8 "\u00e9\x7b\"sequence\":1\x7d\n\x7b\"sequence\":2\x7d\n".toList
    let files := (FileTree.empty []).set ["log"] (some (.file content))
    let source : LogSource := ⟨[⟨"node", "log"⟩], 30, .debug⟩
    let page := (Page.ofText "node" 10 (ofUtf8Lossy content)).entries
    source.path? "node" = some "log" ∧ files.read "log" = .ok content ∧
      source.readBound.toNat + 1 < UInt64.size ∧
      (∀ entry ∈ (placedEntries "node" content).take 10,
        content.length ≤ entry.1 + source.readBound.toNat) ∧
      source.fetch files "node" 10 = some (.ok page) ∧ page.map Entry.sequence = [2] := by
  intro content files source page
  have known : source.path? "node" = some "log" := by decide
  have readable : files.read "log" = .ok content := rfl
  have bounded : source.readBound.toNat + 1 < UInt64.size := by decide
  have within : ∀ entry ∈ (placedEntries "node" content).take 10,
      content.length ≤ entry.1 + source.readBound.toNat := by decide +kernel
  obtain ⟨-, fetched, fetches, -, whole⟩ :=
    fetch_isPrefix_page source files "node" "log" content 10 known readable bounded
  refine ⟨known, readable, bounded, within, ?_, by decide +kernel⟩
  rw [fetches, whole within]

end LogSource

end QueryTail
