import QueryTail.Proofs.LogSource
import QueryTail.Proofs.Window.Delivery

/-!
# Following a growing log

A log grows by whole lines and is fetched after every growth. A page reaches back over all that was
written since the fetch before it, if that is neither too long nor too much, and it may reach
further: what it brings besides was fetched already. So the distinct keys of the page, together with
those in the window, are the distinct keys of the log, however the pages overlap and wherever the
read cuts an older line.

Nothing is claimed about logs that lose lines, nor about a line that is fetched before it ends.
-/

namespace QueryTail

open Text

variable {node path : String} {held written content : List UInt8} {size : Nat}

/-! ### Contents of whole lines -/

/-- The bytes are whole lines: a newline ends the last of them. -/
def WholeLines (content : List UInt8) : Prop :=
  ∀ last ∈ content.getLast?, last = 10

instance (content : List UInt8) : Decidable (WholeLines content) :=
  decidable_of_iff (content.getLast?.all (· == 10) = true) <| by
    simp only [Option.all_eq_true, beq_iff_eq, WholeLines, Option.mem_def]

/-- A content of whole lines is empty or ends with a line feed. -/
theorem WholeLines.eq_nil_or_append (whole : WholeLines content) :
    content = [] ∨ ∃ before, content = before ++ [10] := by
  rcases List.eq_nil_or_concat' content with empty | ⟨before, last, rfl⟩
  · exact Or.inl empty
  · rw [whole last (by simp)]
    exact Or.inr ⟨before, rfl⟩

/-- Whole lines behind whole lines are whole lines. -/
theorem WholeLines.append (first : WholeLines held) (second : WholeLines written) :
    WholeLines (held ++ written) := by
  intro last ends
  rw [List.getLast?_append, Option.mem_def, Option.or_eq_some_iff] at ends
  rcases ends with later | ⟨-, earlier⟩
  · exact second last later
  · exact first last earlier

/-- The entries that the lines of a content hold, last line first. -/
def entriesOf (node : String) (content : List UInt8) : List Entry :=
  (placedEntries node content).map Prod.snd

/-- The distinct keys of the entries of a content. -/
def logKeys (node : String) (content : List UInt8) : Finset Key :=
  Window.pageKeys (entriesOf node content)

/-- The empty content is one blank line. -/
@[simp] theorem placedEntriesFrom_nil (start : Nat) (node : String) :
    placedEntriesFrom start node [] = [] := rfl

/-- What is written behind whole lines holds the newest entries, and leaves the others as they
are. -/
theorem placedEntries_append (whole : WholeLines held) (node : String) (written : List UInt8) :
    placedEntries node (held ++ written) =
      placedEntriesFrom held.length node written ++ placedEntries node held := by
  rcases whole.eq_nil_or_append with rfl | ⟨before, rfl⟩
  · rw [placedEntries, placedEntries, placedEntriesFrom_nil, List.append_nil]
    rfl
  · rw [List.append_assoc, List.singleton_append, placedEntries, placedEntriesFrom_append,
      placedEntries, placedEntriesFrom_append, placedEntriesFrom_nil, List.nil_append,
      List.length_append, List.length_singleton, Nat.zero_add]

/-- Without their places, the entries placed are the entries of the content. -/
theorem map_snd_placedEntriesFrom_eq (start : Nat) (node : String) (content : List UInt8) :
    (placedEntriesFrom start node content).map Prod.snd = entriesOf node content := by
  rw [entriesOf, placedEntries, map_snd_placedEntriesFrom, map_snd_placedEntriesFrom]

/-- The entries written behind whole lines come before those held, as the newest come first. -/
theorem entriesOf_append (whole : WholeLines held) (node : String) (written : List UInt8) :
    entriesOf node (held ++ written) = entriesOf node written ++ entriesOf node held := by
  rw [entriesOf, placedEntries_append whole, List.map_append, map_snd_placedEntriesFrom_eq]
  rfl

/-- Writing behind whole lines adds the keys of what is written. -/
theorem logKeys_append (whole : WholeLines held) (node : String) (written : List UInt8) :
    logKeys node (held ++ written) = logKeys node held ∪ logKeys node written := by
  rw [logKeys, entriesOf_append whole, Window.pageKeys_append, Finset.union_comm]
  rfl

/-! ### What a page reaches back over -/

/-- The page of a log's tail holds all entries that were written last, if they are not too many and
what was written is not too long. The entries behind them were in the log before. -/
theorem exists_entries_ofText_tail {bound : UInt64} (bounded : bound.toNat + 1 < UInt64.size)
    (whole : WholeLines held) (short : written.length ≤ bound.toNat)
    (few : (entriesOf node written).length ≤ size) :
    ∃ more, more <+: entriesOf node held ∧
      (Page.ofText node size (tailOfWindow (bound + 1) (held ++ written))).entries =
        entriesOf node written ++ more := by
  obtain ⟨newer, older, split, tail, before⟩ :=
    exists_placedEntries_append bounded node (held ++ written)
  rw [placedEntries_append whole] at split
  -- All that was written last is on lines within the bound, hence none of it is left out.
  have reaches : placedEntriesFrom held.length node written <+: newer := by
    rcases List.append_eq_append_iff.mp split with ⟨more, rfl, -⟩ | ⟨lost, recent, rfl⟩
    · exact List.prefix_append _ _
    · have none : lost = [] := by
        rw [List.eq_nil_iff_forall_not_mem]
        intro placed member
        have late : placed ∈ placedEntriesFrom held.length node written :=
          recent ▸ List.mem_append_right _ member
        obtain ⟨place, same, -⟩ := place_of_mem_placedEntriesFrom late
        have early := before placed (List.mem_append_left _ member)
        rw [List.length_append] at early
        omega
      rw [recent, none, List.append_nil]
  obtain ⟨more, rfl⟩ := reaches
  rw [List.append_assoc, List.append_cancel_left_eq] at split
  refine ⟨(more.map Prod.snd).take (size - (entriesOf node written).length), ?_, ?_⟩
  · have all : entriesOf node held = more.map Prod.snd ++ older.map Prod.snd := by
      rw [entriesOf, split, List.map_append]
    rw [all]
    exact (List.take_prefix _ _).trans (List.prefix_append _ _)
  · rw [tail, List.map_take, List.map_append, map_snd_placedEntriesFrom_eq, List.take_append,
      List.take_of_length_le few]

namespace LogSource

variable {source : LogSource} {files : FileTree}

/-- A page brings all keys that were written last, and none that is not in the log. -/
theorem fetch_of_growth (known : source.path? node = some path)
    (readable : files.read path = .ok (held ++ written))
    (bounded : source.readBound.toNat + 1 < UInt64.size) (whole : WholeLines held)
    (short : written.length ≤ source.readBound.toNat)
    (few : (entriesOf node written).length ≤ size) :
    ∃ page, source.fetch files node size = some (.ok page) ∧
      logKeys node written ⊆ Window.pageKeys page ∧
      Window.pageKeys page ⊆ logKeys node held ∪ logKeys node written := by
  obtain ⟨more, older, entries⟩ := exists_entries_ofText_tail bounded whole short few
  refine ⟨_, fetch_of_read known readable bounded size, ?_⟩
  rw [entries, Window.pageKeys_append]
  refine ⟨Finset.subset_union_left, ?_⟩
  rw [Finset.union_comm]
  exact Finset.union_subset_union_left (Window.pageKeys_mono older.subset)

/-! ### Rounds -/

/-- What happens to a log between two fetches, and the files as the second of them finds them. -/
structure Round where
  /-- What the log holds before. -/
  held : List UInt8
  /-- What is written to it. -/
  written : List UInt8
  files : FileTree

/-- What the log holds after a round. -/
def Round.log (round : Round) : List UInt8 :=
  round.held ++ round.written

/-- From a content on the log grows by the rounds, one after the other, and each of them writes
whole lines. -/
def Grows (path : String) : List UInt8 → List Round → Prop
  | _, [] => True
  | content, round :: later =>
    round.held = content ∧ WholeLines round.written ∧ round.files.read path = .ok round.log ∧
      Grows path round.log later

/-- Fetch a page from the files of each round and merge it into a window. Gives what every merge
made of the window and what it reported; nothing if a fetch does not give a page. -/
def follow (source : LogSource) (node : String) (size : Nat) (window : Window) :
    List FileTree → Option (List (Window × MergeResult))
  | [] => some []
  | files :: later =>
    match source.fetch files node size with
    | some (.ok page) =>
      let merged := window.merge page
      (source.follow node size merged.1 later).map (merged :: ·)
    | _ => none

/-- After a round the window holds the keys of the log, each once, and nothing that it held was
pushed out. What was counted as new are the keys that were written for the first time. -/
structure CatchesUp (node : String) (round : Round) (merged : Window × MergeResult) : Prop where
  nodup : merged.1.keys.Nodup
  keys : merged.1.keys.toFinset = logKeys node round.log
  evicted : merged.2.evicted = 0
  newCount : merged.2.newCount = (logKeys node round.written \ logKeys node round.held).card

/-- What is written in a round is neither too long nor too much for a page, and there is room for
the keys of the log. -/
structure Round.Fits (round : Round) (node : String) (bound : UInt64) (size capacity : Nat) :
    Prop where
  length_le : round.written.length ≤ bound.toNat
  entries_le : (entriesOf node round.written).length ≤ size
  keys_le : (logKeys node round.log).card ≤ capacity

variable {window : Window} {round : Round}

/-- One round more: a window that holds the keys of the log catches up with it. -/
theorem catchesUp_of_fetch (known : source.path? node = some path)
    (readable : round.files.read path = .ok round.log)
    (bounded : source.readBound.toNat + 1 < UInt64.size) (whole : WholeLines round.held)
    (fits : round.Fits node source.readBound size window.capacity) (holds : window.WellFormed)
    (current : window.keys.toFinset = logKeys node round.held) :
    ∃ page, source.fetch round.files node size = some (.ok page) ∧
      CatchesUp node round (window.merge page) := by
  obtain ⟨page, fetched, brought, inLog⟩ :=
    fetch_of_growth known readable bounded whole fits.length_le fits.entries_le
  have all : window.keys.toFinset ∪ Window.pageKeys page = logKeys node round.log := by
    rw [current, Round.log, logKeys_append whole]
    exact (Finset.union_subset Finset.subset_union_left inLog).antisymm
      (Finset.union_subset_union_right brought)
  have first : Window.pageKeys page \ logKeys node round.held =
      logKeys node round.written \ logKeys node round.held := by
    refine Finset.Subset.antisymm ?_ (Finset.sdiff_subset_sdiff brought le_rfl)
    exact (Finset.sdiff_subset_sdiff inLog le_rfl).trans (Finset.union_sdiff_left _ _).subset
  obtain ⟨keys, evicted⟩ := holds.merge_of_room (all ▸ fits.keys_le)
  refine ⟨page, fetched, (holds.merge page).nodup, keys.trans all, evicted, ?_⟩
  rw [Window.newCount_merge, Window.length_fresh, current, ← first]
  rfl

/-- From a window that holds the keys of the log on, every round catches up with the log. -/
theorem follow_of_grows {rounds : List Round} (known : source.path? node = some path)
    (bounded : source.readBound.toNat + 1 < UInt64.size) (whole : WholeLines content)
    (grows : Grows path content rounds) (holds : window.WellFormed)
    (current : window.keys.toFinset = logKeys node content)
    (fits : ∀ round ∈ rounds, round.Fits node source.readBound size window.capacity) :
    ∃ merges, source.follow node size window (rounds.map Round.files) = some merges ∧
      List.Forall₂ (CatchesUp node) rounds merges := by
  induction rounds generalizing content window with
  | nil => exact ⟨[], rfl, .nil⟩
  | cons round later ih =>
    obtain ⟨rfl, lines, readable, growsLater⟩ := grows
    obtain ⟨page, fetched, caught⟩ := catchesUp_of_fetch known readable bounded whole
      (fits round List.mem_cons_self) holds current
    obtain ⟨merges, follows, all⟩ := ih (whole.append lines) growsLater (holds.merge page)
      caught.keys fun other member => by
        rw [Window.capacity_merge]
        exact fits other (List.mem_cons_of_mem round member)
    refine ⟨window.merge page :: merges, ?_, .cons caught all⟩
    rw [List.map_cons, follow, fetched]
    dsimp only
    rw [follows]
    rfl

/-- What fits a window also fits a larger one. -/
theorem Round.Fits.mono {bound : UInt64} {capacity larger : Nat}
    (fits : round.Fits node bound size capacity) (le : capacity ≤ larger) :
    round.Fits node bound size larger :=
  { fits with keys_le := fits.keys_le.trans le }

/-- A log that starts empty is fetched after every growth, and the pages are merged into a window.
If no growth is too long or too much for a page and the window has room for all keys, every merge
leaves the distinct keys of all that was written so far in the window, pushes nothing out, and
counts as new just the keys that were written for the first time. -/
theorem follow_catchesUp (source : LogSource) (node path : String) (size capacity : Nat)
    (rounds : List Round) (known : source.path? node = some path)
    (bounded : source.readBound.toNat + 1 < UInt64.size) (grows : Grows path [] rounds)
    (fits : ∀ round ∈ rounds, round.Fits node source.readBound size capacity) :
    ∃ merges, source.follow node size (.empty capacity) (rounds.map Round.files) = some merges ∧
      List.Forall₂ (CatchesUp node) rounds merges := by
  have roomy : ∀ round ∈ rounds,
      round.Fits node source.readBound size (Window.empty capacity).capacity :=
    fun round member => (fits round member).mono (Nat.le_max_left capacity 1)
  exact follow_of_grows known bounded (by decide) grows (Window.wellFormed_empty capacity) rfl roomy

/-- The second growth repeats an entry of the first and adds a new one behind a malformed line. The
read bound cuts the first line, and the page overlaps with the one before. -/
theorem follow_catchesUp_overlapping :
    let first := utf8 "\x7b\"sequence\":1,\"subject\":\"\u00e9\"\x7d\n\x7b\"sequence\":2\x7d\n".toList
    let second := utf8 "\x7b\"sequence\":2\x7d\n\x7b\n\x7b\"sequence\":3\x7d\n".toList
    let files (content : List UInt8) := (FileTree.empty []).set ["log"] (some (.file content))
    let rounds : List Round := [⟨[], first, files first⟩, ⟨first, second, files (first ++ second)⟩]
    let source : LogSource := ⟨[⟨"node", "log"⟩], 50, .debug⟩
    source.path? "node" = some "log" ∧ source.readBound.toNat + 1 < UInt64.size ∧
      Grows "log" [] rounds ∧
      (∀ round ∈ rounds, round.Fits "node" source.readBound 2 3) ∧
      ∃ before after, source.follow "node" 2 (.empty 3) (rounds.map Round.files) =
        some [before, after] ∧ after.1.keys.length = 3 ∧ after.2.newCount = 1 := by
  intro first second files rounds source
  have known : source.path? "node" = some "log" := by decide
  have bounded : source.readBound.toNat + 1 < UInt64.size := by decide
  have grows : Grows "log" [] rounds :=
    ⟨rfl, by decide, rfl, rfl, by decide, rfl, trivial⟩
  have fits : ∀ round ∈ rounds, round.Fits "node" source.readBound 2 3 := by
    refine List.forall_mem_cons.mpr ⟨?_, List.forall_mem_singleton.mpr ?_⟩
    · exact ⟨by decide, by decide +kernel, by decide +kernel⟩
    · exact ⟨by decide, by decide +kernel, by decide +kernel⟩
  obtain ⟨merges, follows, caught⟩ :=
    follow_catchesUp source "node" "log" 2 3 rounds known bounded grows fits
  simp only [rounds, List.forall₂_cons_left_iff, List.forall₂_nil_left_iff] at caught
  obtain ⟨before, _, -, ⟨after, _, last, rfl, rfl⟩, rfl⟩ := caught
  refine ⟨known, bounded, grows, fits, before, after, follows, ?_, ?_⟩
  · rw [← List.toFinset_card_of_nodup last.nodup, last.keys]
    decide +kernel
  · rw [last.newCount]
    decide +kernel

end LogSource

end QueryTail
