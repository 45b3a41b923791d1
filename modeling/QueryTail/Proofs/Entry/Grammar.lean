import Mathlib.Data.List.Sort
import QueryTail.Proofs.Entry.Codec

/-!
# Which objects are entries

An object is an entry if its sequence is there and fits 64 bits, its source and subject are of the
right kind where they are present, and no field occurs twice (`Entry.Accepted`). Nothing else
matters: neither what the timestamp is nor what the other members are, nor in which order they
stand. The entry is fixed by the members of the object (`Entry.Denotes`, `Entry.decode?_iff`).
-/

namespace QueryTail.Entry

variable {pairs : List (String × Json)} {entry : Entry} {name : String} {value : Json}
  {found : Option Json}

/-- An object that is an entry, by its members in the order in which they are written. -/
structure Accepted (pairs : List (String × Json)) : Prop where
  sequence : ∃ value : Int, ("sequence", .number (.integer value)) ∈ pairs ∧
    0 ≤ value ∧ value ≤ 2 ^ 64 - 1
  source : ∀ value, ("sourceId", value) ∈ pairs → ∃ text, value = .string text
  subject : ∀ value, ("subject", value) ∈ pairs → value = .null ∨ ∃ text, value = .string text
  once : ∀ name ∈ fieldNames, (pairs.map Prod.fst).count name ≤ 1

/-- The entry that an object is, by the object's members. -/
structure Denotes (pairs : List (String × Json)) (entry : Entry) : Prop where
  source : ("sourceId", .string entry.source) ∈ pairs ∨
    entry.source = "" ∧ "sourceId" ∉ pairs.map Prod.fst
  sequence : ("sequence", .natural entry.sequence.toNat) ∈ pairs
  timestamp : ∀ text, entry.timestamp = some text ↔ ("timestamp", .string text) ∈ pairs ∨
    ∃ number, ("timestamp", .number number) ∈ pairs ∧ text = Json.compress (.number number)
  subject : ∀ text, entry.subject = some text ↔ ("subject", .string text) ∈ pairs
  ascending : Json.Members.Ascending entry.payload
  /-- The value that counts is the last one, the first one from behind. -/
  payload : ∀ name value, (name, value) ∈ entry.payload ↔
    name ∉ fieldNames ∧ Json.Members.get? pairs.reverse name = some value

/-! ### Members that occur once -/

/-- A name without a value is a name that no pair has. -/
theorem get?_eq_none_iff : Json.Members.get? pairs name = none ↔ name ∉ pairs.map Prod.fst := by
  simp only [Json.Members.get?, Option.map_eq_none_iff, List.find?_eq_none, beq_iff_eq,
    List.mem_map, not_exists, not_and]

/-- A member whose name occurs once is found under its name. -/
theorem mem_iff_get?_of_once (once : (pairs.map Prod.fst).count name ≤ 1) :
    (name, value) ∈ pairs ↔ Json.Members.get? pairs name = some value := by
  refine ⟨fun among => ?_, Json.Members.mem_of_get?_eq_some⟩
  induction pairs with
  | nil => cases among
  | cons first pairs ih =>
    rw [List.map_cons, List.count_cons] at once
    rw [Json.Members.get?_cons]
    rcases List.mem_cons.mp among with rfl | among
    · exact if_pos rfl
    · have later : 0 < (pairs.map Prod.fst).count name :=
        List.count_pos_iff.mpr (List.mem_map_of_mem among)
      have other : first.1 ≠ name := by
        rintro rfl
        rw [if_pos (beq_self_eq_true _)] at once
        omega
      rw [if_neg other]
      exact ih (by omega) among

/-- The pairs of a name are as many as the name occurs. -/
theorem length_filter_name (pairs : List (String × Json)) (name : String) :
    (pairs.filter fun pair => pair.1 == name).length = (pairs.map Prod.fst).count name := by
  rw [List.count, List.countP_map, List.countP_eq_length_filter]
  rfl

/-- A field is what is found under its name, if the name does not occur twice. -/
theorem field_eq (pairs : List (String × Json)) (name : String) :
    field pairs name = if (pairs.map Prod.fst).count name ≤ 1 then
      some (Json.Members.get? pairs name) else none := by
  have first : Json.Members.get? pairs name =
      (pairs.filter fun pair => pair.1 == name).head?.map Prod.snd := by
    rw [Json.Members.get?, List.head?_filter]
  rw [field, ← length_filter_name, first]
  split
  · next none => rw [none]; rfl
  · next single => rw [single]; rfl
  · next notNone notSingle =>
    refine (if_neg fun short => ?_).symm
    obtain ⟨held, rest, parts⟩ := List.exists_cons_of_ne_nil notNone
    rw [parts, List.length_cons] at short
    obtain rfl := List.eq_nil_of_length_eq_zero (Nat.le_zero.mp (Nat.le_of_succ_le_succ short))
    exact notSingle held.1 held.2 parts

/-- A field is found when its name occurs at most once, and its value is the one of that pair. -/
theorem field_eq_some_iff : field pairs name = some found ↔
    (pairs.map Prod.fst).count name ≤ 1 ∧ Json.Members.get? pairs name = found := by
  rw [field_eq, Option.ite_none_right_eq_some, Option.some.injEq]

/-! ### Fields -/

/-- A source is read from a text, or is empty where there is none. -/
theorem readSource_eq_some_iff {source : String} : readSource found = some source ↔
    found = some (.string source) ∨ source = "" ∧ found = none := by
  cases found with
  | none => simp [readSource, eq_comm]
  | some value => cases value <;> simp [readSource]

/-- A sequence number is read from a natural number of 64 bits and from nothing else. -/
theorem readSequence_eq_some_iff {sequence : UInt64} :
    readSequence found = some sequence ↔ found = some (.natural sequence.toNat) := by
  constructor
  · intro reads
    unfold readSequence at reads
    split at reads
    · next value =>
      obtain ⟨⟨least, most⟩, same⟩ := Option.ite_none_right_eq_some.mp reads
      obtain rfl := Option.some.inj same
      have small : value.toNat < UInt64.size := by omega
      rw [Json.natural, UInt64.toNat_ofNat_of_lt' small, Int.toNat_of_nonneg least]
    · cases reads
  · rintro rfl
    exact readSequence_natural sequence

/-- A timestamp is read from a text or from a number as it is written. -/
theorem readTimestamp_eq_some_iff {text : String} : readTimestamp found = some text ↔
    found = some (.string text) ∨
      ∃ number, found = some (.number number) ∧ text = Json.compress (.number number) := by
  cases found with
  | none => simp [readTimestamp]
  | some value => cases value <;> simp [readTimestamp, Json.compress, Json.compact, eq_comm]

/-! ### Fields that occur once -/

/-- A source that occurs at most once is the text of its pair, or empty without one. -/
theorem readSource_get?_iff (once : (pairs.map Prod.fst).count "sourceId" ≤ 1) {source : String} :
    readSource (Json.Members.get? pairs "sourceId") = some source ↔
      ("sourceId", .string source) ∈ pairs ∨ source = "" ∧ "sourceId" ∉ pairs.map Prod.fst := by
  rw [readSource_eq_some_iff, ← mem_iff_get?_of_once once, get?_eq_none_iff]

/-- A sequence number that occurs at most once is the number of its pair. -/
theorem readSequence_get?_iff (once : (pairs.map Prod.fst).count "sequence" ≤ 1)
    {sequence : UInt64} : readSequence (Json.Members.get? pairs "sequence") = some sequence ↔
      ("sequence", .natural sequence.toNat) ∈ pairs := by
  rw [readSequence_eq_some_iff, ← mem_iff_get?_of_once once]

/-- A timestamp that occurs at most once is the text or the number of its pair; anything else is
none. -/
theorem readTimestamp_get?_iff (once : (pairs.map Prod.fst).count "timestamp" ≤ 1)
    {timestamp : Option String} :
    readTimestamp (Json.Members.get? pairs "timestamp") = timestamp ↔
      ∀ text, timestamp = some text ↔ ("timestamp", .string text) ∈ pairs ∨
        ∃ number, ("timestamp", .number number) ∈ pairs ∧
          text = Json.compress (.number number) := by
  simp only [mem_iff_get?_of_once once, ← readTimestamp_eq_some_iff]
  rw [eq_comm, Option.ext_iff]

/-- A subject that occurs at most once must be a text or `null`, and is the text. -/
theorem readSubject_get?_iff (once : (pairs.map Prod.fst).count "subject" ≤ 1)
    {subject : Option String} : readSubject (Json.Members.get? pairs "subject") = some subject ↔
      (∀ value, ("subject", value) ∈ pairs → value = .null ∨ ∃ text, value = .string text) ∧
        ∀ text, subject = some text ↔ ("subject", .string text) ∈ pairs := by
  simp only [mem_iff_get?_of_once once]
  cases Json.Members.get? pairs "subject" with
  | none => simp [readSubject, Option.eq_none_iff_forall_ne_some, eq_comm]
  | some value =>
    cases value with
    | null => simp [readSubject, Option.eq_none_iff_forall_ne_some, eq_comm]
    | string held => cases subject <;> simp [readSubject, eq_comm]
    | _ => simp [readSubject]

/-- An object denotes an entry when no field repeats, each field reads as in the entry, and the
payload is the rest. -/
theorem ofPairs?_eq_some_iff : ofPairs? pairs = some entry ↔
    (∀ name ∈ fieldNames, (pairs.map Prod.fst).count name ≤ 1) ∧
    readSource (Json.Members.get? pairs "sourceId") = some entry.source ∧
    readSequence (Json.Members.get? pairs "sequence") = some entry.sequence ∧
    readTimestamp (Json.Members.get? pairs "timestamp") = entry.timestamp ∧
    readSubject (Json.Members.get? pairs "subject") = some entry.subject ∧
    Json.Members.ofList (pairs.filter fun pair => !fieldNames.contains pair.1) = entry.payload := by
  obtain ⟨source, sequence, timestamp, subject, payload⟩ := entry
  unfold ofPairs?
  simp only [Option.bind_eq_bind, Option.bind_eq_some_iff, field_eq_some_iff, fieldNames,
    List.forall_mem_cons, Option.some.injEq, mk.injEq]
  constructor
  · rintro ⟨_, ⟨sourceOnce, rfl⟩, _, readsSource, _, ⟨sequenceOnce, rfl⟩, _, readsSequence,
      _, ⟨timestampOnce, rfl⟩, _, ⟨subjectOnce, rfl⟩, _, readsSubject, rfl, rfl, readsTimestamp,
      rfl, made⟩
    exact ⟨⟨sourceOnce, sequenceOnce, timestampOnce, subjectOnce,
      fun _ none => absurd none List.not_mem_nil⟩,
      readsSource, readsSequence, readsTimestamp, readsSubject, made⟩
  · rintro ⟨⟨sourceOnce, sequenceOnce, timestampOnce, subjectOnce, -⟩,
      readsSource, readsSequence, readsTimestamp, readsSubject, made⟩
    exact ⟨_, ⟨sourceOnce, rfl⟩, _, readsSource, _, ⟨sequenceOnce, rfl⟩, _, readsSequence,
      _, ⟨timestampOnce, rfl⟩, _, ⟨subjectOnce, rfl⟩, _, readsSubject, rfl, rfl, readsTimestamp,
      rfl, made⟩

/-! ### The payload -/

/-- Leaving the fields out hides their names and no others. -/
theorem get?_filter_unnamed (pairs : List (String × Json)) (name : String) :
    Json.Members.get? (pairs.filter fun pair => !fieldNames.contains pair.1) name =
      if name ∈ fieldNames then none else Json.Members.get? pairs name := by
  induction pairs with
  | nil => rw [List.filter_nil, Json.Members.get?_nil, ite_self]
  | cons first pairs ih =>
    rw [List.filter_cons, Json.Members.get?_cons]
    by_cases kept : first.1 ∈ fieldNames
    · have dropped : (!fieldNames.contains first.1) = false := by simpa using kept
      rw [if_neg (Bool.eq_false_iff.mp dropped), ih]
      by_cases named : name ∈ fieldNames
      · rw [if_pos named, if_pos named]
      · have other : first.1 ≠ name := fun same => named (same ▸ kept)
        rw [if_neg named, if_neg named, if_neg other]
    · have unnamed : (!fieldNames.contains first.1) = true := by simpa using kept
      rw [if_pos unnamed, Json.Members.get?_cons, ih]
      split
      · next same => rw [if_neg (same ▸ kept)]
      · rfl

/-- The payload is in order and has all members that are no fields, with the last value of each
name. No other members are the same. -/
theorem ofList_eq_iff {payload : Json.Members} :
    Json.Members.ofList (pairs.filter fun pair => !fieldNames.contains pair.1) = payload ↔
      Json.Members.Ascending payload ∧ ∀ name value, (name, value) ∈ payload ↔
        name ∉ fieldNames ∧ Json.Members.get? pairs.reverse name = some value := by
  obtain ⟨kept, isKept⟩ :
      ∃ kept, (pairs.filter fun pair => !fieldNames.contains pair.1) = kept := ⟨_, rfl⟩
  have held (name : String) (value : Json) : (name, value) ∈ Json.Members.ofList kept ↔
      name ∉ fieldNames ∧ Json.Members.get? pairs.reverse name = some value := by
    rw [Json.Members.mem_iff_get? (Json.Members.ascending_ofList _), Json.Members.get?_ofList,
      ← isKept, ← List.filter_reverse, get?_filter_unnamed, Option.ite_none_left_eq_some]
  rw [isKept]
  constructor
  · rintro rfl
    exact ⟨Json.Members.ascending_ofList _, held⟩
  · rintro ⟨ascending, given⟩
    have : Std.Irrefl fun first second : String × Json => first.1 < second.1 :=
      ⟨fun member => lt_irrefl member.1⟩
    have : Std.Antisymm fun first second : String × Json => first.1 < second.1 :=
      ⟨fun _ _ before after => absurd before after.not_gt⟩
    exact (Json.Members.ascending_ofList kept).eq_of_mem_iff ascending fun ⟨name, value⟩ =>
      (held name value).trans (given name value).symm

/-! ### Objects that are entries -/

/-- The decoder accepts exactly the objects of the grammar, and gives the entry that they denote. -/
theorem ofPairs?_eq_some_iff_denotes :
    ofPairs? pairs = some entry ↔ Accepted pairs ∧ Denotes pairs entry := by
  rw [ofPairs?_eq_some_iff, ofList_eq_iff]
  constructor
  · rintro ⟨once, source, sequence, timestamp, subject, ascending, payload⟩
    have sourceOnce := once "sourceId" (by decide)
    have source := (readSource_get?_iff sourceOnce).mp source
    have sequence := (readSequence_get?_iff (once _ (by decide))).mp sequence
    have timestamp := (readTimestamp_get?_iff (once _ (by decide))).mp timestamp
    have subject := (readSubject_get?_iff (once _ (by decide))).mp subject
    have sourceText : ∀ value, ("sourceId", value) ∈ pairs → ∃ text, value = .string text := by
      intro value among
      rcases source with text | ⟨-, absent⟩
      · have first := (mem_iff_get?_of_once sourceOnce).mp among
        have second := (mem_iff_get?_of_once sourceOnce).mp text
        exact ⟨entry.source, Option.some.inj (first.symm.trans second)⟩
      · exact absurd (List.mem_map_of_mem among) absent
    have bounded : (entry.sequence.toNat : Int) ≤ 2 ^ 64 - 1 :=
      Int.le_sub_one_of_lt (Int.ofNat_lt.mpr entry.sequence.toNat_lt)
    exact ⟨⟨⟨_, sequence, Int.natCast_nonneg _, bounded⟩, sourceText, subject.1, once⟩,
      ⟨source, sequence, timestamp, subject.2, ascending, payload⟩⟩
  · rintro ⟨accepted, denotes⟩
    have once := accepted.once
    exact ⟨once, (readSource_get?_iff (once _ (by decide))).mpr denotes.source,
      (readSequence_get?_iff (once _ (by decide))).mpr denotes.sequence,
      (readTimestamp_get?_iff (once _ (by decide))).mpr denotes.timestamp,
      (readSubject_get?_iff (once _ (by decide))).mpr ⟨accepted.subject, denotes.subject⟩,
      denotes.ascending, denotes.payload⟩

/-- An object is an entry just if it is accepted. -/
theorem isSome_ofPairs? (pairs : List (String × Json)) :
    (ofPairs? pairs).isSome = true ↔ Accepted pairs := by
  refine ⟨fun denotes => ?_, fun accepted => ?_⟩
  · obtain ⟨entry, denotes⟩ := Option.isSome_iff_exists.mp denotes
    exact (ofPairs?_eq_some_iff_denotes.mp denotes).1
  have source : ∃ text, readSource (Json.Members.get? pairs "sourceId") = some text := by
    cases found : Json.Members.get? pairs "sourceId" with
    | none => exact ⟨"", rfl⟩
    | some value =>
      obtain ⟨text, rfl⟩ := accepted.source value (Json.Members.mem_of_get?_eq_some found)
      exact ⟨text, rfl⟩
  have sequence : ∃ word, readSequence (Json.Members.get? pairs "sequence") = some word := by
    obtain ⟨value, among, least, most⟩ := accepted.sequence
    have small : value < UInt64.size := Int.lt_of_le_sub_one most
    rw [(mem_iff_get?_of_once (accepted.once _ (by decide))).mp among, readSequence,
      if_pos ⟨least, small⟩]
    exact ⟨_, rfl⟩
  have subject : ∃ text, readSubject (Json.Members.get? pairs "subject") = some text := by
    cases found : Json.Members.get? pairs "subject" with
    | none => exact ⟨none, rfl⟩
    | some value =>
      rcases accepted.subject value (Json.Members.mem_of_get?_eq_some found) with rfl | ⟨text, rfl⟩
      · exact ⟨none, rfl⟩
      · exact ⟨some text, rfl⟩
  obtain ⟨source, readsSource⟩ := source
  obtain ⟨sequence, readsSequence⟩ := sequence
  obtain ⟨subject, readsSubject⟩ := subject
  have denotes : ofPairs? pairs = some ⟨source, sequence, _, subject, _⟩ :=
    ofPairs?_eq_some_iff.mpr
      ⟨accepted.once, readsSource, readsSequence, rfl, readsSubject, rfl⟩
  exact Option.isSome_iff_exists.mpr ⟨_, denotes⟩

/-- The text of an object denotes an entry just if the object is accepted, and then the one entry
that the object's members make. -/
theorem decode?_iff (text : String) (pairs : List (String × Json))
    (parsed : Json.parsePairs? text = some pairs) :
    ((decode? text).isSome = true ↔ Accepted pairs) ∧
      ∀ entry, decode? text = some entry ↔ Accepted pairs ∧ Denotes pairs entry := by
  rw [decode?, parsed, Option.bind_some]
  exact ⟨isSome_ofPairs? pairs, fun entry => ofPairs?_eq_some_iff_denotes⟩

/-- The sequence is the greatest word, a payload name is repeated and the subject is null. -/
theorem decode?_iff_repeated :
    let text := "\x7b\"x\":1,\"sequence\":18446744073709551615,\"timestamp\":-7,\"x\":[2]," ++
      "\"subject\":null\x7d"
    let pairs : List (String × Json) := [("x", .natural 1),
      ("sequence", .natural 18446744073709551615), ("timestamp", .number (.integer (-7))),
      ("x", .array [.natural 2]), ("subject", .null)]
    Json.parsePairs? text = some pairs ∧ Accepted pairs ∧
      ∃ entry, decode? text = some entry ∧ Denotes pairs entry := by
  intro text pairs
  have parsed : Json.parsePairs? text = some pairs := by
    subst text pairs
    rfl
  have decodes : (decode? text).isSome = true := by decide +kernel
  obtain ⟨accepted, denoted⟩ := decode?_iff text pairs parsed
  obtain ⟨entry, decoded⟩ := Option.isSome_iff_exists.mp decodes
  exact ⟨parsed, accepted.mp decodes, entry, decoded, ((denoted entry).mp decoded).2⟩

end QueryTail.Entry
