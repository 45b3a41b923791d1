import QueryTail.Proofs.Filter.Restored

/-!
# Setting patterns

A pattern is refused for one of two reasons (`PatternRefused`): it is too long or, if not, it does
not compile. A pattern that is refused leaves the filter as it was. So the pattern of a filter is
always the last one that was not refused, whatever was tried in between (`pattern_edited`).

How long a pattern is, is counted in bytes, although the fault speaks of characters. The two counts
lead to the same answers for a pattern that is short enough in bytes and for one of ASCII characters
alone, and for no other (`patternRefused_length_iff`).
-/

namespace QueryTail.Filter

variable {compile : String → Option Matcher} {filter before after : Filter} {pattern : String}
  {fault : FilterFault}

/-! ### Refusals -/

/-- The faults for which a pattern of a size is refused. -/
inductive PatternRefused (size : Nat) (compile : String → Option Matcher) (pattern : String) :
    FilterFault → Prop where
  | tooLong (long : 4096 < size) : PatternRefused size compile pattern (.patternTooLong size)
  | invalid (short : size ≤ 4096) (present : pattern ≠ "")
    (rejected : compile pattern = Option.none) :
    PatternRefused size compile pattern (.invalidPattern pattern)

/-- A pattern is refused for its size or because it does not compile, and for nothing else. -/
theorem setPattern_eq_error_iff :
    filter.setPattern compile pattern = .error fault ↔
      PatternRefused pattern.utf8ByteSize compile pattern fault := by
  unfold setPattern
  constructor
  · intro refused
    split at refused
    · cases refused
    · next present =>
      split at refused
      · next long =>
        cases refused
        exact .tooLong long
      · next short =>
        split at refused
        · next rejected =>
          cases refused
          exact .invalid (Nat.le_of_not_gt short) (mt String.isEmpty_iff.mpr present) rejected
        · cases refused
  · rintro (long | ⟨short, present, rejected⟩)
    · have exceeds : pattern.utf8ByteSize > maxPatternBytes := long
      have present : ¬pattern.isEmpty = true := by
        intro empty
        rw [String.isEmpty_iff.mp empty] at long
        cases long
      rw [if_neg present, if_pos exceeds]
    · have fits : ¬pattern.utf8ByteSize > maxPatternBytes := Nat.not_lt_of_le short
      rw [if_neg (mt String.isEmpty_iff.mp present), if_neg fits, rejected]

/-- A pattern that is refused changes nothing. -/
theorem edit_of_refused (refused : filter.setPattern compile pattern = .error fault) :
    filter.edit compile (.pattern pattern) = filter := by
  rw [edit, refused]

/-- An edit with a pattern that is accepted sets the pattern. -/
theorem edit_of_accepted (accepted : filter.setPattern compile pattern = .ok after) :
    filter.edit compile (.pattern pattern) = after := by
  rw [edit, accepted]

/-! ### Bytes and characters -/

/-- A text has at most as many characters as bytes. -/
theorem length_le_utf8Len (text : List Char) : text.length ≤ String.utf8Len text := by
  induction text with
  | nil => exact Nat.le_refl 0
  | cons c rest ih =>
    have positive := c.utf8Size_pos
    rw [List.length_cons, String.utf8Len_cons]
    omega

/-- A text has as many bytes as characters exactly when it is plain ASCII. -/
theorem utf8Len_eq_length_iff {text : List Char} :
    String.utf8Len text = text.length ↔ ∀ c ∈ text, c.toNat < 128 := by
  induction text with
  | nil => simp
  | cons c rest ih =>
    have positive := c.utf8Size_pos
    have restLength := length_le_utf8Len rest
    have single : c.utf8Size = 1 ↔ c.toNat < 128 := by
      rw [Char.utf8Size_eq_one_iff, UInt32.le_iff_toNat_le]
      exact Nat.lt_succ_iff.symm
    rw [List.forall_mem_cons, ← ih, ← single, List.length_cons, String.utf8Len_cons]
    omega

/-- A pattern has at most as many characters as bytes. -/
theorem length_le_utf8ByteSize (pattern : String) : pattern.length ≤ pattern.utf8ByteSize := by
  have count := length_le_utf8Len pattern.toList
  rwa [← String.utf8ByteSize_ofList, String.ofList_toList, String.length_toList] at count

/-- A pattern has as many bytes as characters exactly when it is plain ASCII. -/
theorem utf8ByteSize_eq_length_iff :
    pattern.utf8ByteSize = pattern.length ↔ ∀ c ∈ pattern.toList, c.toNat < 128 := by
  rw [← utf8Len_eq_length_iff, ← String.utf8ByteSize_ofList, String.ofList_toList,
    String.length_toList]

/-- Repeating one character multiplies its bytes. -/
theorem utf8ByteSize_replicate (count : Nat) (c : Char) :
    (String.ofList (List.replicate count c)).utf8ByteSize = count * c.utf8Size := by
  rw [String.utf8ByteSize_ofList]
  induction count with
  | zero => rw [List.replicate_zero, String.utf8Len_nil, Nat.zero_mul]
  | succ count ih => rw [List.replicate_succ, String.utf8Len_cons, ih, Nat.succ_mul]

/-- If characters were counted, the answers would be the same just for a pattern that is short
enough in bytes, or of ASCII characters alone. -/
theorem patternRefused_length_iff :
    (∀ fault, PatternRefused pattern.utf8ByteSize compile pattern fault ↔
        PatternRefused pattern.length compile pattern fault) ↔
      pattern.utf8ByteSize ≤ 4096 ∨ ∀ c ∈ pattern.toList, c.toNat < 128 := by
  rw [← utf8ByteSize_eq_length_iff]
  constructor
  · intro same
    by_contra neither
    obtain ⟨long, multibyte⟩ := not_or.mp neither
    have counted := (same _).mp (.tooLong (Nat.lt_of_not_le long))
    generalize pattern.utf8ByteSize = bytes at counted multibyte
    cases counted
    exact multibyte rfl
  · rintro (short | ascii) fault
    · have fits : pattern.length ≤ 4096 := (length_le_utf8ByteSize pattern).trans short
      constructor
      · rintro (long | ⟨-, present, rejected⟩)
        · exact absurd short (Nat.not_le_of_lt long)
        · exact .invalid fits present rejected
      · rintro (long | ⟨-, present, rejected⟩)
        · exact absurd fits (Nat.not_le_of_lt long)
        · exact .invalid short present rejected
    · rw [ascii]

/-! ### Sequences of patterns -/

/-- The patterns of a sequence that are not refused, each by the filter as it is when its turn has
come. -/
def accepted (compile : String → Option Matcher) : Filter → List String → List String
  | _, [] => []
  | filter, pattern :: rest =>
    match filter.setPattern compile pattern with
    | .ok changed => pattern :: accepted compile changed rest
    | .error _ => accepted compile filter rest

/-- A pattern that is accepted is the pattern of the filter afterwards. -/
theorem pattern_of_setPattern
    (faithful : ∀ pattern matcher, compile pattern = some matcher → matcher.pattern = pattern)
    (set : before.setPattern compile pattern = .ok after) : after.pattern = pattern := by
  obtain ⟨matcher, again, same⟩ := setPattern_of_setPattern faithful set before
  obtain rfl := Except.ok.inj (set.symm.trans again)
  exact same

/-- After a sequence of patterns the filter has the last one that was accepted, or the one from
before. -/
theorem pattern_edited_patterns
    (faithful : ∀ pattern matcher, compile pattern = some matcher → matcher.pattern = pattern)
    (filter : Filter) (patterns : List String) :
    (filter.edited compile (patterns.map .pattern)).pattern =
      (accepted compile filter patterns).getLastD filter.pattern := by
  induction patterns generalizing filter with
  | nil => rfl
  | cons pattern rest ih =>
    rw [List.map_cons, edited, List.foldl_cons, ← edited, ih, accepted]
    cases set : filter.setPattern compile pattern with
    | error fault => rw [edit_of_refused set]
    | ok changed =>
      rw [edit_of_accepted set, List.getLastD_cons, pattern_of_setPattern faithful set]

/-- At every moment of a sequence of patterns, whatever the filter was at first: a pattern is
refused if it has more than 4096 bytes, with their number, and otherwise if there is one that does
not compile. Counting characters gives other answers, unless the pattern is short enough in bytes or
of ASCII characters alone. A pattern that is refused leaves the effect of the filter as it is, and
the pattern of the filter is the last one that was not refused. -/
theorem pattern_edited (compile : String → Option Matcher)
    (faithful : ∀ pattern matcher, compile pattern = some matcher → matcher.pattern = pattern)
    (filter : Filter) (patterns : List String) :
    let after := filter.edited compile (patterns.map .pattern)
    (∀ pattern fault, after.setPattern compile pattern = .error fault ↔
      PatternRefused pattern.utf8ByteSize compile pattern fault) ∧
    (∀ pattern, (∀ fault, after.setPattern compile pattern = .error fault ↔
        PatternRefused pattern.length compile pattern fault) ↔
      pattern.utf8ByteSize ≤ 4096 ∨ ∀ c ∈ pattern.toList, c.toNat < 128) ∧
    (∀ pattern fault, after.setPattern compile pattern = .error fault →
      ∀ rows, (after.edit compile (.pattern pattern)).apply rows = after.apply rows) ∧
    after.pattern = (accepted compile filter patterns).getLastD filter.pattern := by
  intro after
  refine ⟨fun pattern fault => setPattern_eq_error_iff, fun pattern => ?_, ?_,
    pattern_edited_patterns faithful filter patterns⟩
  · simp only [setPattern_eq_error_iff]
    exact patternRefused_length_iff
  · intro pattern fault refused rows
    rw [edit_of_refused refused]

/-- Patterns are set and removed, one is refused that does not compile, and so is one of 2049
characters that take two bytes each. -/
theorem pattern_edited_mixed :
    let compile : String → Option Matcher := fun pattern =>
      if pattern = "(" then Option.none
      else some ⟨pattern, fun text => occursIn pattern.toList text.toList⟩
    let long := String.ofList (List.replicate 2049 '\u00e9')
    let after := none.edited compile (["ads", "", "\u00e9", "("].map .pattern)
    (∀ pattern matcher, compile pattern = some matcher → matcher.pattern = pattern) ∧
      after.pattern = "\u00e9" ∧ after.setPattern compile "(" = .error (.invalidPattern "(") ∧
      after.setPattern compile long = .error (.patternTooLong 4098) ∧
      ∀ rows, (after.edit compile (.pattern long)).apply rows = after.apply rows := by
  intro compile long after
  have faithful :
      ∀ pattern matcher, compile pattern = some matcher → matcher.pattern = pattern := by
    intro pattern matcher compiled
    obtain ⟨-, same⟩ := Option.ite_none_left_eq_some.mp compiled
    rw [← Option.some.inj same]
  have bytes : long.utf8ByteSize = 4098 := utf8ByteSize_replicate 2049 '\u00e9'
  obtain ⟨refused, -, keeps, last⟩ :=
    pattern_edited compile faithful none ["ads", "", "\u00e9", "("]
  have tooLong : after.setPattern compile long = .error (.patternTooLong 4098) := by
    refine (refused _ _).mpr ?_
    rw [bytes]
    exact .tooLong (by decide)
  have invalid : after.setPattern compile "(" = .error (.invalidPattern "(") :=
    (refused _ _).mpr (.invalid (by decide) (by decide) (if_pos rfl))
  refine ⟨faithful, last.trans ?_, invalid, tooLong, keeps long _ tooLong⟩
  decide +kernel

/-- A pattern of 2049 characters is refused as too long, because they take 4098 bytes. -/
theorem multibyte_pattern_refused :
    let pattern := String.ofList (List.replicate 2049 '\u00e9')
    pattern.length = 2049 ∧
      none.setPattern Matcher.compile? pattern = .error (.patternTooLong 4098) ∧
      ¬ ∀ fault, none.setPattern Matcher.compile? pattern = .error fault ↔
        PatternRefused pattern.length Matcher.compile? pattern fault := by
  intro pattern
  have characters : pattern.length = 2049 := by
    rw [String.length_ofList, List.length_replicate]
  have bytes : pattern.utf8ByteSize = 4098 := utf8ByteSize_replicate 2049 '\u00e9'
  have refused : none.setPattern Matcher.compile? pattern = .error (.patternTooLong 4098) := by
    refine setPattern_eq_error_iff.mpr ?_
    rw [bytes]
    exact .tooLong (by decide)
  refine ⟨characters, refused, fun counted => ?_⟩
  have claimed := (counted _).mp refused
  rw [characters] at claimed
  cases claimed

end QueryTail.Filter
