import QueryTail.Proofs.Window.Invariant

/-!
# What a window keeps of what is delivered

Pages overlap, and an entry that was pushed out may be delivered again, any number of times. As long
as no two delivered keys are equally recent none of this matters: after every page the window holds
the most recent keys of all that were ever delivered (`IsNewest`), which depends only on their set.

The step lemma is `IsNewest.merge`. It rests on `IsNewest.below_of_forgotten`: a key that the window
has dropped is less recent than a whole window of rows, and the window only gets more recent, so
that the key cannot come back.
-/

namespace QueryTail

open Time

/-- The keys `chosen` are the `count` most recent of the keys `delivered`, most recent first. -/
structure IsNewest (count : Nat) (delivered : Finset Key) (chosen : List Key) : Prop where
  ordered : chosen.Pairwise fun newer older => older.recency < newer.recency
  subset : chosen.toFinset ⊆ delivered
  length_eq : chosen.length = min count delivered.card
  /-- A key that is left out is less recent than all that are chosen. -/
  below : ∀ key ∈ delivered, key ∉ chosen → ∀ other ∈ chosen, key.recency < other.recency

namespace IsNewest

variable {count : Nat} {delivered : Finset Key} {left right : List Key}

/-- Keys that are strictly ordered by recency are distinct. -/
theorem nodup (newest : IsNewest count delivered left) : left.Nodup :=
  newest.ordered.imp fun below same => absurd (congrArg Key.recency same.symm) below.ne

/-- Of two choices of the most recent keys, the first lies within the second. -/
theorem subset_of_isNewest (first : IsNewest count delivered left)
    (second : IsNewest count delivered right) : left ⊆ right := by
  intro key member
  by_contra absent
  have inDelivered : key ∈ delivered := first.subset (List.mem_toFinset.mpr member)
  -- All of the right list is more recent than the key, hence also chosen by the left list.
  have others : right ⊆ left := by
    intro other chosen
    by_contra missing
    have above := second.below key inDelivered absent other chosen
    have otherDelivered : other ∈ delivered := second.subset (List.mem_toFinset.mpr chosen)
    exact above.not_gt (first.below other otherDelivered missing key member)
  have fewer : (key :: right).length ≤ left.length :=
    ((List.nodup_cons.mpr ⟨absent, second.nodup⟩).subperm
      (List.cons_subset.mpr ⟨member, others⟩)).length_le
  rw [List.length_cons, first.length_eq, second.length_eq] at fewer
  omega

/-- The set of keys determines which are the most recent, and their order. -/
theorem unique (first : IsNewest count delivered left) (second : IsNewest count delivered right) :
    left = right := by
  have same : left.Perm right := by
    rw [List.perm_ext_iff_of_nodup first.nodup second.nodup]
    exact fun key => ⟨fun member => first.subset_of_isNewest second member,
      fun member => second.subset_of_isNewest first member⟩
  exact same.eq_of_pairwise (fun _ _ _ _ below above => absurd below above.not_gt)
    first.ordered second.ordered

end IsNewest

namespace Window

variable {window : Window} {page : List Entry} {delivered : Finset Key} {key : Key}

/-- The keys of a page. -/
def pageKeys (page : List Entry) : Finset Key :=
  (page.map Entry.key).toFinset

/-- The keys of a page are the keys of its entries. -/
theorem mem_pageKeys : key ∈ pageKeys page ↔ key ∈ page.map Entry.key :=
  List.mem_toFinset

/-- Two pages together have the keys of both. -/
theorem pageKeys_append (first second : List Entry) :
    pageKeys (first ++ second) = pageKeys first ∪ pageKeys second := by
  rw [pageKeys, List.map_append, List.toFinset_append]
  rfl

/-- A page within a page has keys within its keys. -/
theorem pageKeys_mono {first second : List Entry} (subset : first ⊆ second) :
    pageKeys first ⊆ pageKeys second := by
  intro key member
  rw [mem_pageKeys] at member ⊢
  exact List.map_subset Entry.key subset member

/-- The keys of the candidates are those of the window and those of the page. -/
theorem toFinset_keys_candidates (window : Window) (page : List Entry) :
    ((window.candidates page).map Row.key).toFinset = window.keys.toFinset ∪ pageKeys page := by
  ext key
  rw [List.mem_toFinset, mem_keys_candidates, Finset.mem_union, List.mem_toFinset, mem_pageKeys]

/-- The keys of a sequence of pages, however they are spread over the pages. -/
def deliveredKeys (pages : List (List Entry)) : Finset Key :=
  pageKeys pages.flatten

/-- What the merges of a sequence of pages report. -/
def mergeResults (window : Window) : List (List Entry) → List MergeResult
  | [] => []
  | page :: rest => (window.merge page).2 :: mergeResults (window.merge page).1 rest

/-- If at least `count` of some ordered keys are above a bound, the first `count` keys are. -/
theorem above_of_mem_take {keys : List Key} {count : Nat} {bound : WithBot Instant}
    (ordered : keys.Pairwise fun newer older => older.recency ≤ newer.recency)
    (enough : count ≤ keys.countP (bound < ·.recency)) :
    ∀ key ∈ keys.take count, bound < key.recency := by
  induction keys generalizing count with
  | nil => simp
  | cons first rest ih =>
    obtain ⟨newest, orderedRest⟩ := List.pairwise_cons.mp ordered
    cases count with
    | zero => simp
    | succ count =>
      by_cases above : bound < first.recency
      · rw [List.countP_cons_of_pos (by simpa using above), Nat.succ_le_succ_iff] at enough
        intro key member
        rw [List.take_succ_cons, List.mem_cons] at member
        rcases member with same | later
        · exact same ▸ above
        · exact ih orderedRest enough key later
      · -- No key of the rest is above the bound either, so that there are not enough.
        have none : (first :: rest).countP (bound < ·.recency) = 0 := by
          rw [List.countP_eq_zero]
          intro key member
          rw [decide_eq_true_iff]
          rcases List.mem_cons.mp member with same | later
          · exact same ▸ above
          · exact fun higher => above (higher.trans_le (newest key later))
        omega

/-- Ordered rows have ordered keys, if each row holds the instant of its timestamp. -/
theorem map_key_ordered {rows : List Row} (agrees : ∀ row ∈ rows, row.recency = row.key.recency)
    (ordered : rows.Pairwise Row.AsRecent) :
    (rows.map Row.key).Pairwise fun newer older => older.recency ≤ newer.recency := by
  rw [List.pairwise_map]
  refine ordered.imp_of_mem fun left right asRecent => ?_
  rw [← agrees _ left, ← agrees _ right]
  exact asRecent

namespace WellFormed

/-- The keys of a window go from newest to oldest. -/
theorem keys_ordered (holds : window.WellFormed) :
    window.keys.Pairwise fun newer older => older.recency ≤ newer.recency :=
  map_key_ordered (fun _ held => holds.recency_eq held) holds.ordered

/-- The keys of the candidates go from newest to oldest. -/
theorem keys_candidates_ordered (holds : window.WellFormed) (page : List Entry) :
    ((window.candidates page).map Row.key).Pairwise
      fun newer older => older.recency ≤ newer.recency := by
  refine map_key_ordered (fun row member => ?_) (candidates_ordered window page)
  rcases mem_candidates.mp member with fresh | held
  · exact recency_of_mem_fresh fresh
  · exact holds.recency_eq held

/-- A merge leaves the first keys of the candidates, as many as the capacity allows. -/
theorem keys_merge (holds : window.WellFormed) (page : List Entry) :
    (window.merge page).1.keys = ((window.candidates page).map Row.key).take window.capacity := by
  rw [keys, holds.rows_merge, List.map_take]

/-- A window that has room for all keys loses none. -/
theorem merge_of_room (holds : window.WellFormed)
    (room : (window.keys.toFinset ∪ pageKeys page).card ≤ window.capacity) :
    (window.merge page).1.keys.toFinset = window.keys.toFinset ∪ pageKeys page ∧
      (window.merge page).2.evicted = 0 := by
  rw [← toFinset_keys_candidates, List.toFinset_card_of_nodup (nodup_keys_candidates holds.nodup _),
    List.length_map] at room
  constructor
  · rw [holds.keys_merge, List.take_of_length_le (by rwa [List.length_map]),
      toFinset_keys_candidates]
  · rw [holds.evicted_merge, ← length_candidates]
    exact Nat.sub_eq_zero_of_le room

/-- A key after a merge comes from the window or from the page. -/
theorem mem_of_mem_keys_merge (holds : window.WellFormed)
    (member : key ∈ (window.merge page).1.keys) : key ∈ window.keys ∨ key ∈ pageKeys page := by
  rw [holds.keys_merge] at member
  rw [mem_pageKeys]
  exact mem_keys_candidates.mp (List.mem_of_mem_take member)

/-- What a merge drops is not more recent than what it keeps. -/
theorem recency_le_of_dropped (holds : window.WellFormed)
    (known : key ∈ (window.candidates page).map Row.key)
    (dropped : key ∉ (window.merge page).1.keys) :
    ∀ other ∈ (window.merge page).1.keys, key.recency ≤ other.recency := by
  have ordered := holds.keys_candidates_ordered page
  rw [holds.keys_merge] at *
  rw [← List.take_append_drop window.capacity (List.map _ _)] at known ordered
  intro other kept
  have behind := (List.mem_append.mp known).resolve_left dropped
  exact (List.pairwise_append.mp ordered).2.2 other kept key behind

end WellFormed

end Window

/-! ### One page more -/

namespace IsNewest

open Window

variable {window : Window} {page : List Entry} {delivered : Finset Key} {key : Key}

/-- A window that has dropped a key is full. -/
theorem length_of_forgotten {count : Nat} {chosen : List Key}
    (newest : IsNewest count delivered chosen) (known : key ∈ delivered)
    (forgotten : key ∉ chosen) : chosen.length = count := by
  have more : chosen.toFinset.card < delivered.card := by
    refine Finset.card_lt_card ⟨newest.subset, fun all => forgotten ?_⟩
    exact List.mem_toFinset.mp (all known)
  rw [List.toFinset_card_of_nodup newest.nodup, newest.length_eq] at more
  rw [newest.length_eq]
  omega

/-- A dropped key is below all that a later merge keeps, and thus is not kept itself. -/
theorem below_of_forgotten (newest : IsNewest window.capacity delivered window.keys)
    (holds : window.WellFormed) (known : key ∈ delivered) (forgotten : key ∉ window.keys) :
    ∀ other ∈ (window.merge page).1.keys, key.recency < other.recency := by
  rw [holds.keys_merge]
  apply above_of_mem_take (holds.keys_candidates_ordered page)
  have above : window.keys.countP (key.recency < ·.recency) = window.keys.length := by
    rw [List.countP_eq_length]
    exact fun other held => decide_eq_true (newest.below key known forgotten other held)
  rw [(keys_candidates_perm window page).countP_eq, List.countP_append, above,
    newest.length_of_forgotten known forgotten]
  exact Nat.le_add_left _ _

/-- A key that a merge keeps was delivered before or with the page. -/
theorem mem_delivered_of_kept (newest : IsNewest window.capacity delivered window.keys)
    (holds : window.WellFormed) (kept : key ∈ (window.merge page).1.keys) :
    key ∈ delivered ∪ pageKeys page := by
  rw [Finset.mem_union]
  refine (holds.mem_of_mem_keys_merge kept).imp_left fun held => ?_
  exact newest.subset (List.mem_toFinset.mpr held)

/-- A merge keeps as many keys as were delivered before or in the page, if there is room. -/
theorem length_keys_merge (newest : IsNewest window.capacity delivered window.keys)
    (holds : window.WellFormed) :
    (window.merge page).1.keys.length =
      min window.capacity (delivered ∪ pageKeys page).card := by
  have chosen : (window.merge page).1.keys.length =
      min window.capacity ((window.fresh page).length + window.keys.length) := by
    rw [holds.keys_merge, List.length_take, List.length_map, length_candidates, keys,
      List.length_map]
  have size := newest.length_eq
  rw [chosen]
  by_cases all : delivered.card ≤ window.capacity
  · -- The window holds all that was delivered, so that the union counts held and new keys.
    have same : window.keys.toFinset = delivered := by
      apply Finset.eq_of_subset_of_card_le newest.subset
      rw [List.toFinset_card_of_nodup newest.nodup]
      omega
    have union : (delivered ∪ pageKeys page).card =
        (window.fresh page).length + window.keys.length := by
      rw [Finset.union_comm, ← Finset.card_sdiff_add_card, ← same, length_fresh,
        List.toFinset_card_of_nodup newest.nodup]
      rfl
    rw [union]
  · have more : delivered.card ≤ (delivered ∪ pageKeys page).card :=
      Finset.card_le_card Finset.subset_union_left
    omega

/-- Merging a page keeps the most recent keys of all that were delivered before or in the page. -/
theorem merge (newest : IsNewest window.capacity delivered window.keys)
    (holds : window.WellFormed)
    (separated : Set.InjOn Key.recency (delivered ∪ pageKeys page : Finset Key)) :
    IsNewest window.capacity (delivered ∪ pageKeys page) (window.merge page).1.keys where
  subset key member := newest.mem_delivered_of_kept holds (List.mem_toFinset.mp member)
  length_eq := newest.length_keys_merge holds
  ordered := by
    have kept := holds.merge page
    refine (kept.keys_ordered.and kept.nodup).imp_of_mem fun {newer older} left right both => ?_
    refine lt_of_le_of_ne both.1 fun same => both.2 ?_
    exact separated (newest.mem_delivered_of_kept holds left)
      (newest.mem_delivered_of_kept holds right) same.symm
  below := by
    intro key known dropped other kept
    by_cases candidate : key ∈ (window.candidates page).map Row.key
    · have behind := holds.recency_le_of_dropped candidate dropped other kept
      refine lt_of_le_of_ne behind fun same => ?_
      have equal := separated known (newest.mem_delivered_of_kept holds kept) same
      exact dropped (equal ▸ kept)
    · rw [mem_keys_candidates, not_or, ← mem_pageKeys] at candidate
      have before := (Finset.mem_union.mp known).resolve_right candidate.2
      exact newest.below_of_forgotten holds before candidate.1 other kept

/-- What a merge reports as new was delivered for the first time. -/
theorem not_mem_of_mem_newKeys (newest : IsNewest window.capacity delivered window.keys)
    (holds : window.WellFormed) (reported : key ∈ (window.merge page).2.newKeys) :
    key ∉ delivered := by
  rw [newKeys_merge, List.mem_filter, List.contains_iff_mem] at reported
  obtain ⟨kept, fresh⟩ := reported
  intro known
  exact (newest.below_of_forgotten holds known (mem_keys_fresh.mp fresh).2 key kept).false

end IsNewest

namespace Window

variable {window : Window} {delivered : Finset Key} {key : Key}

/-! ### All pages -/

@[simp] theorem deliveredKeys_nil : deliveredKeys [] = ∅ := rfl

@[simp] theorem deliveredKeys_cons (page : List Entry) (rest : List (List Entry)) :
    deliveredKeys (page :: rest) = pageKeys page ∪ deliveredKeys rest := by
  simp [deliveredKeys, pageKeys]

/-- Only keys of the page are reported as new. -/
theorem mem_pageKeys_of_mem_newKeys {page : List Entry}
    (reported : key ∈ (window.merge page).2.newKeys) : key ∈ pageKeys page := by
  rw [newKeys_merge, List.mem_filter, List.contains_iff_mem] at reported
  exact mem_pageKeys.mpr (mem_keys_fresh.mp reported.2).1

/-- No key is reported as new twice by one merge. -/
theorem nodup_newKeys (holds : window.WellFormed) (page : List Entry) :
    (window.merge page).2.newKeys.Nodup := by
  rw [newKeys_merge]
  exact (holds.merge page).nodup.sublist List.filter_sublist

/-- Merging pages one after the other keeps the most recent of all keys delivered. -/
theorem isNewest_run (holds : window.WellFormed)
    (newest : IsNewest window.capacity delivered window.keys) (pages : List (List Entry))
    (separated : Set.InjOn Key.recency (delivered ∪ deliveredKeys pages : Finset Key)) :
    IsNewest window.capacity (delivered ∪ deliveredKeys pages)
      (window.run (pages.map .merge)).keys := by
  induction pages generalizing window delivered with
  | nil => simpa using newest
  | cons page rest ih =>
    rw [deliveredKeys_cons, ← Finset.union_assoc] at separated ⊢
    have step := newest.merge holds
      (separated.mono (Finset.coe_subset.mpr Finset.subset_union_left))
    rw [← capacity_merge window page] at step
    have final := ih (holds.merge page) step separated
    rwa [capacity_merge] at final

/-- Over all merges of a sequence of pages no key is reported as new twice, and none that was
delivered before. -/
theorem nodup_reported (holds : window.WellFormed)
    (newest : IsNewest window.capacity delivered window.keys) (pages : List (List Entry))
    (separated : Set.InjOn Key.recency (delivered ∪ deliveredKeys pages : Finset Key)) :
    ((mergeResults window pages).flatMap MergeResult.newKeys).Nodup ∧
      ∀ key ∈ (mergeResults window pages).flatMap MergeResult.newKeys, key ∉ delivered := by
  induction pages generalizing window delivered with
  | nil => simp [mergeResults]
  | cons page rest ih =>
    rw [deliveredKeys_cons, ← Finset.union_assoc] at separated
    have step := newest.merge holds
      (separated.mono (Finset.coe_subset.mpr Finset.subset_union_left))
    rw [← capacity_merge window page] at step
    obtain ⟨nodup, unknown⟩ := ih (holds.merge page) step separated
    rw [mergeResults, List.flatMap_cons]
    constructor
    · refine List.nodup_append.mpr ⟨nodup_newKeys holds page, nodup, ?_⟩
      rintro key reported _ later rfl
      exact unknown key later (Finset.mem_union_right _ (mem_pageKeys_of_mem_newKeys reported))
    · intro key member known
      rcases List.mem_append.mp member with reported | later
      · exact newest.not_mem_of_mem_newKeys holds reported known
      · exact unknown key later (Finset.mem_union_left _ known)

/-- An empty window holds the most recent of no keys. -/
theorem isNewest_empty (capacity : Nat) :
    IsNewest (empty capacity).capacity ∅ (empty capacity).keys where
  ordered := List.Pairwise.nil
  subset := by simp [keys, empty]
  length_eq := by simp [keys, empty]
  below _ absurd := by simp at absurd

/-- If no two keys that are delivered are equally recent, a window that started empty holds the most
recent of them, as many as it has room for, most recent first. Only their set matters, not the order
in which they came, how they were spread over the pages and how often they were repeated. No key is
reported as new twice. -/
theorem run_merges_isNewest (capacity : Nat) (pages : List (List Entry))
    (separated : ∀ first ∈ pages.flatten, ∀ second ∈ pages.flatten,
      first.key.recency = second.key.recency → first.key = second.key) :
    let window := (empty capacity).run (pages.map .merge)
    IsNewest (max capacity 1) (deliveredKeys pages) window.keys ∧
    (∀ others, deliveredKeys others = deliveredKeys pages →
      ((empty capacity).run (others.map .merge)).keys = window.keys) ∧
    ((mergeResults (empty capacity) pages).flatMap MergeResult.newKeys).Nodup := by
  intro window
  have holds := wellFormed_empty capacity
  have injective : Set.InjOn Key.recency (deliveredKeys pages) := by
    intro left leftIn right rightIn same
    obtain ⟨first, firstIn, rfl⟩ := List.mem_map.mp (List.mem_toFinset.mp leftIn)
    obtain ⟨second, secondIn, rfl⟩ := List.mem_map.mp (List.mem_toFinset.mp rightIn)
    exact separated first firstIn second secondIn same
  have newest (others : List (List Entry)) (same : deliveredKeys others = deliveredKeys pages) :
      IsNewest (max capacity 1) (deliveredKeys pages)
        ((empty capacity).run (others.map .merge)).keys := by
    have final := isNewest_run holds (isNewest_empty capacity) others
    rw [Finset.empty_union, same] at final
    exact final injective
  refine ⟨newest pages rfl, fun others same => (newest others same).unique (newest pages rfl), ?_⟩
  have reported := nodup_reported holds (isNewest_empty capacity) pages
  rw [Finset.empty_union] at reported
  exact (reported injective).1

/-- Pages that overlap, repeat an entry and bring back one that was dropped; one entry has no
instant. -/
theorem run_merges_isNewest_overlapping :
    let first : Entry := ⟨"A", 1, some "2024-05-01T10:00:01Z", none, []⟩
    let second : Entry := ⟨"B", 1, some "2024-05-01T10:00:02Z", none, []⟩
    let third : Entry := ⟨"A", 2, some "2024-05-01T10:00:03Z", none, []⟩
    let unresolved : Entry := ⟨"B", 2, none, none, []⟩
    let pages := [[first, second], [third, first, third], [first, unresolved, second]]
    (∀ left ∈ pages.flatten, ∀ right ∈ pages.flatten,
      left.key.recency = right.key.recency → left.key = right.key) ∧
    ((empty 2).run (pages.map .merge)).keys = [third.key, second.key] ∧
    ((mergeResults (empty 2) pages).flatMap MergeResult.newKeys).Nodup := by
  intro first second third unresolved pages
  have separated : ∀ left ∈ pages.flatten, ∀ right ∈ pages.flatten,
      left.key.recency = right.key.recency → left.key = right.key := by decide
  obtain ⟨newest, -, nodup⟩ := run_merges_isNewest 2 pages separated
  have expected : IsNewest 2 (deliveredKeys pages) [third.key, second.key] :=
    ⟨by decide, by decide, by decide, by decide⟩
  exact ⟨separated, newest.unique expected, nodup⟩

end Window

end QueryTail
