import QueryTail.Entry.Codec
import QueryTail.Proofs.Json.Form

/-!
# Entries read back

An entry that was decoded and encoded again is decoded to the same entry, unless there is a double
in its payload (`Entry.WellFormed.decode?_encode`). What makes this work are three facts of every
decoded entry (`Entry.WellFormed`): its payload is in order, none of the payload's names is that of
a field, and the payload's values are such that the reader can give them.
-/

namespace QueryTail

namespace Json

variable {pairs members : List (String × Json)} {text : String}

/-- What an object text holds is readable, one level below the limit. -/
theorem readable_of_parsePairs? (parsed : parsePairs? text = some pairs) :
    ∀ pair ∈ pairs, Readable (maxDepth - 1) pair.2 := by
  obtain ⟨rounds, body, rest, reads⟩ := exists_of_readWhole parsed
  unfold readPairs at reads
  split at reads
  · obtain ⟨⟨found, after⟩, folds, same⟩ := Option.map_eq_some_iff.mp reads
    obtain ⟨rfl, -⟩ := Prod.mk.inj same
    have each : ∀ pair ∈ found, Readable (maxDepth - 1) pair.2 := by
      refine foldObject_keeps
        (motive := fun found => ∀ pair ∈ found, Readable (maxDepth - 1) pair.2)
        ?_ folds (fun _ none => absurd none List.not_mem_nil)
      intro found name text next rest stepped each
      obtain ⟨⟨value, _⟩, read, same⟩ := Option.map_eq_some_iff.mp stepped
      obtain ⟨rfl, -⟩ := Prod.mk.inj same
      exact List.forall_mem_cons.mpr ⟨readable_readValue read, each⟩
    exact fun pair among => each pair (List.mem_reverse.mp among)
  · cases reads

/-- The members of an object are read back in the order in which they are written. -/
theorem readPairs_body (form : Form) (level : Nat) {depth rounds : Nat}
    (readable : ∀ member ∈ members, Readable depth member.2)
    (whole : membersHaveReal members = false)
    (enough : (form.body level (.object members)).length ≤ rounds) (rest : List Char) :
    readPairs (depth + 1) rounds (form.body level (.object members) ++ rest) =
      some (members, rest) := by
  have single := membersHaveReal_eq_false_iff.mp whole
  have reads := membersRead_foldl
    (fun found name text =>
      (readValue rounds depth text).map fun read => ((name, read.1) :: found, read.2))
    (form.body (level + 1)) (fun found member => member :: found)
    (fun found member among after ends => by
      have shorter := form.length_member_le level among
      rw [form.readValue_body (readable member among) (single member among)
        (shorter.trans enough) ends, Option.map_some])
    []
  obtain ⟨inside, written, folds⟩ := form.foldObject_body whole reads
    ((form.length_members_le level members).trans enough) rest
  rw [written, readPairs]
  dsimp only
  rw [folds]
  simp

/-- An object is read back as the list of its members. -/
theorem parsePairs?_compress (readable : ∀ member ∈ members, Readable (maxDepth - 1) member.2)
    (whole : membersHaveReal members = false) :
    parsePairs? (compress (.object members)) = some members := by
  have enough : (compact (.object members)).length ≤
      2 * (compact (.object members)).length + 2 := by omega
  have reads := readPairs_body .compact 0 readable whole enough []
  rw [List.append_nil] at reads
  exact readWhole_ofList rfl reads

end Json

namespace Entry

variable {entry : Entry} {text : String} {pairs : List (String × Json)} {name : String}

/-- What an entry has that was decoded. -/
structure WellFormed (entry : Entry) : Prop where
  ascending : Json.Members.Ascending entry.payload
  unnamed : ∀ member ∈ entry.payload, member.1 ∉ fieldNames
  readable : ∀ member ∈ entry.payload, Json.Readable (Json.maxDepth - 1) member.2

/-- The payload of an entry is what the object holds beside the fields, each name once. -/
theorem payload_of_ofPairs? (denotes : ofPairs? pairs = some entry) :
    entry.payload =
      Json.Members.ofList (pairs.filter fun pair => !fieldNames.contains pair.1) := by
  unfold ofPairs? at denotes
  simp only [Option.bind_eq_bind, Option.bind_eq_some_iff, Option.some.injEq] at denotes
  obtain ⟨_, _, _, _, _, _, _, _, _, _, _, _, _, _, rfl⟩ := denotes
  rfl

/-- Every entry that is decoded is well-formed. -/
theorem wellFormed_of_decode? (decoded : decode? text = some entry) : entry.WellFormed := by
  obtain ⟨pairs, parsed, denotes⟩ := Option.bind_eq_some_iff.mp decoded
  have made := payload_of_ofPairs? denotes
  have given : ∀ member ∈ entry.payload, member ∈ pairs ∧ member.1 ∉ fieldNames := by
    intro member among
    rw [made] at among
    have kept := List.mem_filter.mp (Json.Members.mem_of_mem_ofList among)
    simpa using kept
  exact
    { ascending := made ▸ Json.Members.ascending_ofList _
      unnamed := fun member among => (given member among).2
      readable := fun member among =>
        Json.readable_of_parsePairs? parsed member (given member among).1 }

/-! ### The members of an entry's object -/

/-- The members that are not payload. -/
def fieldMembers (entry : Entry) : List (String × Json) :=
  [("sourceId", .string entry.source), ("sequence", .natural entry.sequence.toNat),
    ("timestamp", optionalText entry.timestamp), ("subject", optionalText entry.subject)]

/-- An entry is written as its fields and then its payload. -/
theorem toJson_eq (entry : Entry) : entry.toJson = .object (entry.fieldMembers ++ entry.payload) :=
  rfl

/-- A text that may be absent is readable at any depth. -/
theorem readable_optionalText (depth : Nat) (text : Option String) :
    Json.Readable depth (optionalText text) := by
  cases text with
  | none => exact .null
  | some text => exact .string text

/-- A text that may be absent has no double. -/
theorem hasReal_optionalText (text : Option String) : (optionalText text).hasReal = false := by
  cases text <;> rfl

/-- The fields of an entry are readable at any depth. -/
theorem readable_fieldMembers (depth : Nat) :
    ∀ member ∈ entry.fieldMembers, Json.Readable depth member.2 := by
  have inRange : (Json.Number.integer entry.sequence.toNat).InRange := by
    have bounded := entry.sequence.toNat_lt
    unfold Json.Number.InRange Json.Numeral.maxWord
    omega
  simp only [fieldMembers, List.forall_mem_cons]
  exact ⟨.string _, .number inRange, readable_optionalText _ _, readable_optionalText _ _,
    fun _ none => absurd none List.not_mem_nil⟩

/-- No field of an entry is a double. -/
theorem hasReal_fieldMembers : ∀ member ∈ entry.fieldMembers, member.2.hasReal = false := by
  simp only [fieldMembers, List.forall_mem_cons]
  exact ⟨rfl, rfl, hasReal_optionalText _, hasReal_optionalText _,
    fun _ none => absurd none List.not_mem_nil⟩

/-- A sequence number is read back from the number that is written. -/
theorem readSequence_natural (sequence : UInt64) :
    readSequence (some (.natural sequence.toNat)) = some sequence := by
  have bounded : sequence.toNat < 18446744073709551616 := sequence.toNat_lt
  have inRange : (0 : Int) ≤ sequence.toNat ∧ (sequence.toNat : Int) < UInt64.size :=
    ⟨Int.natCast_nonneg _, Int.ofNat_lt.mpr bounded⟩
  rw [Json.natural, readSequence, if_pos inRange, Int.toNat_natCast, UInt64.ofNat_toNat]

/-- A subject is read back from what is written for it, `null` included. -/
theorem readSubject_optionalText (subject : Option String) :
    readSubject (some (optionalText subject)) = some subject := by
  cases subject <;> rfl

/-- A timestamp is read back from what is written for it, `null` included. -/
theorem readTimestamp_optionalText (timestamp : Option String) :
    readTimestamp (some (optionalText timestamp)) = timestamp := by
  cases timestamp <;> rfl

/-- An entry without doubles in its payload is written without doubles. -/
theorem hasReal_toJson (whole : Json.membersHaveReal entry.payload = false) :
    Json.membersHaveReal (entry.fieldMembers ++ entry.payload) = false := by
  rw [Json.membersHaveReal_eq_false_iff] at whole ⊢
  exact List.forall_mem_append.mpr ⟨hasReal_fieldMembers, whole⟩

namespace WellFormed

/-- No name of the payload hides a field. -/
theorem field_members (wellFormed : entry.WellFormed) {name : String} {value : Json}
    (known : name ∈ fieldNames)
    (once : entry.fieldMembers.filter (fun pair => pair.1 == name) = [(name, value)]) :
    field (entry.fieldMembers ++ entry.payload) name = some (some value) := by
  have others : entry.payload.filter (fun pair => pair.1 == name) = [] := by
    refine List.filter_eq_nil_iff.mpr fun member among same => ?_
    rw [beq_iff_eq] at same
    exact wellFormed.unnamed member among (same ▸ known)
  rw [field, List.filter_append, once, others]
  rfl

/-- What is no field of the object is the payload. -/
theorem payload_members (wellFormed : entry.WellFormed) :
    (entry.fieldMembers ++ entry.payload).filter (fun pair => !fieldNames.contains pair.1) =
      entry.payload := by
  have fields : entry.fieldMembers.filter (fun pair => !fieldNames.contains pair.1) = [] := rfl
  rw [List.filter_append, fields, List.nil_append, List.filter_eq_self]
  intro member among
  simpa using wellFormed.unnamed member among

/-- The members written for a well-formed entry denote it. -/
theorem ofPairs?_members (wellFormed : entry.WellFormed) :
    ofPairs? (entry.fieldMembers ++ entry.payload) = some entry := by
  have source : field (entry.fieldMembers ++ entry.payload) "sourceId" =
      some (some (.string entry.source)) :=
    wellFormed.field_members (by decide) (by simp [fieldMembers])
  have sequence : field (entry.fieldMembers ++ entry.payload) "sequence" =
      some (some (.natural entry.sequence.toNat)) :=
    wellFormed.field_members (by decide) (by simp [fieldMembers])
  have timestamp : field (entry.fieldMembers ++ entry.payload) "timestamp" =
      some (some (optionalText entry.timestamp)) :=
    wellFormed.field_members (by decide) (by simp [fieldMembers])
  have subject : field (entry.fieldMembers ++ entry.payload) "subject" =
      some (some (optionalText entry.subject)) :=
    wellFormed.field_members (by decide) (by simp [fieldMembers])
  have ordered : Json.Members.ofList entry.payload = entry.payload :=
    Json.Members.ofList_of_ascending wellFormed.ascending
  -- One step for each reading, in the order in which they are made.
  refine Option.bind_eq_some_iff.mpr ⟨_, source, ?_⟩
  refine Option.bind_eq_some_iff.mpr ⟨entry.source, rfl, ?_⟩
  refine Option.bind_eq_some_iff.mpr ⟨_, sequence, ?_⟩
  refine Option.bind_eq_some_iff.mpr ⟨entry.sequence, readSequence_natural _, ?_⟩
  refine Option.bind_eq_some_iff.mpr ⟨_, timestamp, ?_⟩
  refine Option.bind_eq_some_iff.mpr ⟨_, subject, ?_⟩
  refine Option.bind_eq_some_iff.mpr ⟨entry.subject, readSubject_optionalText _, ?_⟩
  rw [readTimestamp_optionalText, wellFormed.payload_members]
  dsimp only
  rw [ordered]

/-- The text of a well-formed entry without doubles denotes the entry. -/
theorem decode?_encode (wellFormed : entry.WellFormed)
    (whole : Json.membersHaveReal entry.payload = false) :
    decode? entry.encode = some entry := by
  have parsed : Json.parsePairs? entry.encode = some (entry.fieldMembers ++ entry.payload) := by
    rw [encode, toJson_eq]
    refine Json.parsePairs?_compress ?_ ?_
    · exact List.forall_mem_append.mpr ⟨readable_fieldMembers _, wellFormed.readable⟩
    · exact hasReal_toJson whole
  rw [decode?, parsed]
  exact wellFormed.ofPairs?_members

/-- A well-formed entry without doubles is read back from any written form, wherever there is room
for the containers in its payload. -/
theorem readAt_body (wellFormed : entry.WellFormed)
    (whole : Json.membersHaveReal entry.payload = false) (form : Json.Form) (level : Nat)
    {depth rounds : Nat} (fits : Json.membersNesting entry.payload ≤ depth)
    (enough : (form.body level entry.toJson).length ≤ rounds) (rest : List Char) :
    readAt (depth + 1) rounds (form.body level entry.toJson ++ rest) = some (entry, rest) := by
  have shallow := Json.membersNesting_le_iff.mp fits
  have readable :
      ∀ member ∈ entry.fieldMembers ++ entry.payload, Json.Readable depth member.2 :=
    List.forall_mem_append.mpr ⟨readable_fieldMembers depth, fun member among =>
      (wellFormed.readable member among).of_nesting_le (shallow member among)⟩
  have pairs := Json.readPairs_body form level readable (hasReal_toJson whole) enough rest
  refine Option.bind_eq_some_iff.mpr ⟨_, pairs, ?_⟩
  exact Option.bind_eq_some_iff.mpr ⟨entry, wellFormed.ofPairs?_members, rfl⟩

end WellFormed

/-- An array of well-formed entries without doubles is read back, if there is room for one container
around each payload. -/
theorem decodeArray?_body (form : Json.Form) {entries : List Entry}
    (wellFormed : ∀ entry ∈ entries, entry.WellFormed)
    (whole : ∀ entry ∈ entries, Json.membersHaveReal entry.payload = false)
    (shallow : ∀ entry ∈ entries, (Json.object entry.payload).nesting < Json.maxDepth) :
    decodeArray? (String.ofList (form.body 0 (.array (entries.map toJson)))) = some entries := by
  obtain ⟨written, isWritten⟩ : ∃ written, form.body 0 (.array (entries.map toJson)) = written :=
    ⟨_, rfl⟩
  obtain ⟨rounds, isRounds⟩ : ∃ rounds, 2 * written.length + 2 = rounds := ⟨_, rfl⟩
  have reads : ∀ (found : List Entry), ∀ entry ∈ entries, ∀ after,
      Json.endsNumber after = true →
        ((readAt (Json.maxDepth - 1) rounds (form.body 1 entry.toJson ++ after)).map fun read =>
          (read.1 :: found, read.2)) = some (entry :: found, after) := by
    intro found entry among after _
    have shorter : (form.body 1 entry.toJson).length ≤ written.length := by
      rw [← isWritten]
      exact form.length_item_le 0 (List.mem_map_of_mem among)
    have fits : Json.membersNesting entry.payload ≤ Json.maxDepth - 2 :=
      Nat.le_sub_of_add_le (shallow entry among)
    have read : readAt (Json.maxDepth - 1) rounds (form.body 1 entry.toJson ++ after) =
        some (entry, after) :=
      (wellFormed entry among).readAt_body (whole entry among) form 1 fits (by omega) after
    rw [read, Option.map_some]
  have enough : entries.length ≤ rounds := by
    have count := form.length_items_le 0 (entries.map toJson)
    rw [isWritten, List.length_map] at count
    omega
  obtain ⟨inside, parts, folds⟩ := form.foldArray_body
    (fun found text => (readAt (Json.maxDepth - 1) rounds text).map fun read =>
      (read.1 :: found, read.2))
    (fun found entry => entry :: found) toJson
    (fun entry among => hasReal_toJson (whole entry among)) reads enough [] []
  rw [isWritten, List.append_nil] at parts
  rw [isWritten]
  refine Json.readWhole_ofList (parts ▸ rfl) ?_
  rw [isRounds, parts, readArray]
  dsimp only
  rw [folds]
  simp

/-- An entry that some text denotes, without doubles in its payload, is denoted by its own text. So
what is decoded from there has the same identity, the same instant and the same text. -/
theorem encode_roundTrip (text : String) (entry : Entry)
    (decoded : decode? text = some entry)
    (whole : Json.membersHaveReal entry.payload = false) :
    decode? entry.encode = some entry ∧
      ∀ again, decode? entry.encode = some again →
        again = entry ∧ again.key = entry.key ∧ again.resolved = entry.resolved ∧
          again.encode = entry.encode := by
  have returns : decode? entry.encode = some entry :=
    (wellFormed_of_decode? decoded).decode?_encode whole
  refine ⟨returns, fun again decodes => ?_⟩
  obtain rfl : entry = again := Option.some.inj (returns.symm.trans decodes)
  exact ⟨rfl, rfl, rfl, rfl⟩

/-- The timestamp is a number, a name is repeated, and there are escapes. -/
theorem encode_roundTrip_escaped :
    let text := "\x7b\"b\":1, \"timestamp\":17, \"sequence\":18446744073709551615,\n" ++
      "\"b\": [-7, \x7b\"z\":null, \"a\":\"\\u0001\\ud83d\\ude00\"\x7d]\x7d"
    let written := "\x7b\"sourceId\":\"\",\"sequence\":18446744073709551615," ++
      "\"timestamp\":\"17\",\"subject\":null,\"b\":[-7,\x7b\"a\":\"\\u0001😀\",\"z\":null\x7d]\x7d"
    ∃ entry, decode? text = some entry ∧ Json.membersHaveReal entry.payload = false ∧
      entry.encode = written ∧ decode? written = some entry := by
  intro text written
  have decodes : (decode? text).map (fun entry =>
      (entry.encode, Json.membersHaveReal entry.payload)) = some (written, false) := by
    decide +kernel
  obtain ⟨entry, decoded, same⟩ := Option.map_eq_some_iff.mp decodes
  obtain ⟨encodes, whole⟩ := Prod.mk.inj same
  have returns := (encode_roundTrip text entry decoded whole).1
  exact ⟨entry, decoded, whole, encodes, encodes ▸ returns⟩

end Entry

end QueryTail
