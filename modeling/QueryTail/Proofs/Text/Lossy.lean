import Mathlib.Data.List.Basic
import QueryTail.Text.Utf8

/-!
# Reading bytes line by line

The lossy reading of bytes looks at one byte after the other. A newline byte ends whatever
character is unfinished and leaves nothing unfinished itself, and no other byte or sequence of bytes
reads as a newline. So the reading commutes with splitting into lines (`splitOn_ofUtf8Lossy`): what
stands on one line, well formed or not, has no influence on any other line.
-/

namespace QueryTail.Text

variable {bytes before after : List UInt8} {byte : UInt8} {unfinished : Option Unfinished}

/-! ### Reading from the front -/

/-- What bytes read as when a character before them may be unfinished. -/
def readFrom (unfinished : Option Unfinished) : List UInt8 → List Char
  | [] => if unfinished.isSome then [replacement] else []
  | byte :: rest =>
    let next := Decoding.step ⟨[], unfinished, true⟩ byte
    next.found.reverse ++ readFrom next.unfinished rest

/-- Reading takes one step for the first byte and goes on with what that leaves unfinished. -/
theorem readFrom_cons (unfinished : Option Unfinished) (byte : UInt8) (rest : List UInt8) :
    readFrom unfinished (byte :: rest) =
      (Decoding.step ⟨[], unfinished, true⟩ byte).found.reverse ++
        readFrom (Decoding.step ⟨[], unfinished, true⟩ byte).unfinished rest := rfl

namespace Decoding

/-- What a first byte begins does not depend on what was read before. -/
theorem begin_eq (decoding : Decoding) (byte : Nat) :
    (decoding.begin byte).found = (begin ⟨[], none, true⟩ byte).found ++ decoding.found ∧
      (decoding.begin byte).unfinished = (begin ⟨[], none, true⟩ byte).unfinished := by
  unfold begin
  cases Lead.ofByte byte <;> exact ⟨rfl, rfl⟩

/-- What a byte adds depends on the unfinished character only. -/
theorem step_eq (decoding : Decoding) (byte : UInt8) :
    (decoding.step byte).found =
        (step ⟨[], decoding.unfinished, true⟩ byte).found ++ decoding.found ∧
      (decoding.step byte).unfinished =
        (step ⟨[], decoding.unfinished, true⟩ byte).unfinished := by
  obtain ⟨found, unfinished, clean⟩ := decoding
  cases unfinished with
  | none => exact begin_eq _ byte.toNat
  | some unfinished =>
    unfold step
    dsimp only
    split
    · split <;> exact ⟨rfl, rfl⟩
    · have given := begin_eq (abandon ⟨found, some unfinished, clean⟩) byte.toNat
      have fresh := begin_eq (abandon ⟨[], some unfinished, true⟩) byte.toNat
      rw [given.1, given.2, fresh.1, fresh.2]
      exact ⟨by simp [abandon], rfl⟩

/-- Decoding adds what the bytes read as to what was found before. -/
theorem found_foldl (decoding : Decoding) (bytes : List UInt8) :
    (bytes.foldl step decoding).abandon.found.reverse =
      decoding.found.reverse ++ readFrom decoding.unfinished bytes := by
  induction bytes generalizing decoding with
  | nil =>
    obtain ⟨found, unfinished, clean⟩ := decoding
    cases unfinished <;> simp [abandon, readFrom]
  | cons byte rest ih =>
    obtain ⟨found, unfinished⟩ := step_eq decoding byte
    rw [List.foldl_cons, ih, found, unfinished, readFrom_cons, List.reverse_append,
      List.append_assoc]

end Decoding

/-- The lossy text of bytes is what they read as from the front. -/
theorem ofUtf8Lossy_eq_readFrom (bytes : List UInt8) : ofUtf8Lossy bytes = readFrom none bytes :=
  Decoding.found_foldl .start bytes

/-! ### Unfinished characters -/

/-- An unfinished character continues with bytes above all ASCII, and will have a code above all
ASCII. -/
structure Unfinished.Wide (unfinished : Unfinished) : Prop where
  low_ge : 0x80 ≤ unfinished.low
  bits_ge : 2 ≤ 64 * unfinished.bits + (unfinished.low - 0x80)
  last_ge : unfinished.missing = 1 → 2 ≤ unfinished.bits

/-- What a first byte starts: itself as a character, or a character with a code above all ASCII. -/
def Lead.Fits (byte : Nat) : Lead → Prop
  | .whole c => c = Char.ofNat byte
  | .starts unfinished => unfinished.Wide
  | .bad => True

/-- A first byte starts what it has to. -/
theorem Lead.fits_ofByte (byte : Nat) : (Lead.ofByte byte).Fits byte := by
  unfold ofByte
  -- The ranges of bytes one by one; six of the ten start something.
  repeat' refine iteInduction (motive := Lead.Fits byte) (fun _ => ?_) fun _ => ?_
  all_goals first
    | trivial
    | exact rfl
    | refine ⟨?_, ?_, ?_⟩ <;> dsimp only <;> omega

/-- Only the code of a line feed gives a line feed. -/
theorem eq_of_ofNat_eq_newline {code : Nat} (newline : Char.ofNat code = '\n') : code = 10 := by
  by_cases valid : code.isValidChar
  · rw [Char.ofNat, dif_pos valid] at newline
    exact congrArg Char.toNat newline
  · rw [Char.ofNat, dif_neg valid] at newline
    cases newline

namespace Decoding

/-- A byte that starts something reads as a newline only if it is one. -/
theorem begin_spec {byte : Nat} (other : byte ≠ 10) :
    '\n' ∉ (begin ⟨[], none, true⟩ byte).found ∧
      ∀ next ∈ (begin ⟨[], none, true⟩ byte).unfinished, next.Wide := by
  have fits := Lead.fits_ofByte byte
  unfold begin
  cases lead : Lead.ofByte byte with
  | whole c =>
    rw [lead] at fits
    refine ⟨?_, by simp⟩
    rw [List.mem_singleton]
    rintro rfl
    exact other (eq_of_ofNat_eq_newline fits.symm)
  | starts unfinished =>
    rw [lead] at fits
    refine ⟨List.not_mem_nil, fun next starts => ?_⟩
    obtain rfl := Option.some.inj starts
    exact fits
  | bad => exact ⟨by decide, by simp⟩

/-- No byte but a newline reads as a newline, and unfinished characters stay wide. -/
theorem step_spec (wide : ∀ held ∈ unfinished, held.Wide) (other : byte ≠ 10) :
    '\n' ∉ (step ⟨[], unfinished, true⟩ byte).found ∧
      ∀ next ∈ (step ⟨[], unfinished, true⟩ byte).unfinished, next.Wide := by
  have notNewline : byte.toNat ≠ 10 := fun same => other (UInt8.toNat_inj.mp same)
  cases unfinished with
  | none => exact begin_spec notNewline
  | some held =>
    obtain ⟨lowGe, bitsGe, lastGe⟩ := wide held rfl
    unfold step
    dsimp only
    split
    · next continues =>
      split
      · next last =>
        have high := lastGe last
        refine ⟨?_, by simp⟩
        rw [List.mem_singleton]
        intro newline
        have code := eq_of_ofNat_eq_newline newline.symm
        omega
      · refine ⟨List.not_mem_nil, ?_⟩
        simp only [Option.mem_def, Option.some.injEq, forall_eq']
        constructor <;> simp <;> omega
    · have started := begin_spec notNewline
      have given := begin_eq (abandon ⟨[], some held, true⟩) byte.toNat
      rw [given.1, given.2]
      refine ⟨?_, started.2⟩
      rw [List.mem_append, not_or]
      exact ⟨started.1, by simp [abandon, replacement]⟩

/-- A newline gives up what is unfinished. -/
theorem step_newline (wide : ∀ held ∈ unfinished, held.Wide) :
    (step ⟨[], unfinished, true⟩ 10).found.reverse = readFrom unfinished [] ++ ['\n'] ∧
      (step ⟨[], unfinished, true⟩ 10).unfinished = none := by
  cases unfinished with
  | none => exact ⟨rfl, rfl⟩
  | some held =>
    have low := (wide held rfl).low_ge
    have outside : ¬(held.low ≤ (10 : UInt8).toNat ∧ (10 : UInt8).toNat ≤ held.high) := by
      have value : (10 : UInt8).toNat = 10 := rfl
      omega
    unfold step
    dsimp only
    rw [if_neg outside]
    exact ⟨rfl, rfl⟩

end Decoding

/-! ### Lines -/

/-- A line feed ends a line and any unfinished character: what is behind it is read on its own. -/
theorem readFrom_append_newline (wide : ∀ held ∈ unfinished, held.Wide)
    (line : (10 : UInt8) ∉ before) :
    readFrom unfinished (before ++ 10 :: after) =
      readFrom unfinished before ++ '\n' :: readFrom none after := by
  induction before generalizing unfinished with
  | nil =>
    obtain ⟨found, left⟩ := Decoding.step_newline wide
    rw [List.nil_append, readFrom_cons, found, left, List.append_assoc, List.singleton_append]
  | cons byte rest ih =>
    rw [List.mem_cons, not_or] at line
    have next := Decoding.step_spec wide (Ne.symm line.1)
    rw [List.cons_append, readFrom_cons, readFrom_cons, ih next.2 line.2, List.append_assoc]

/-- Bytes without a line feed read as text without one. -/
theorem newline_not_mem_readFrom (wide : ∀ held ∈ unfinished, held.Wide)
    (line : (10 : UInt8) ∉ bytes) : '\n' ∉ readFrom unfinished bytes := by
  induction bytes generalizing unfinished with
  | nil => cases unfinished <;> simp [readFrom, replacement]
  | cons byte rest ih =>
    rw [List.mem_cons, not_or] at line
    have next := Decoding.step_spec wide (Ne.symm line.1)
    rw [readFrom_cons, List.mem_append, List.mem_reverse, not_or]
    exact ⟨next.1, ih next.2 line.2⟩

/-- Bytes without a newline read as characters without a newline. -/
theorem newline_not_mem_ofUtf8Lossy (line : (10 : UInt8) ∉ bytes) : '\n' ∉ ofUtf8Lossy bytes := by
  rw [ofUtf8Lossy_eq_readFrom]
  exact newline_not_mem_readFrom (by simp) line

/-- The first line reads as it does alone, and so does what follows it. -/
theorem ofUtf8Lossy_append_newline (line : (10 : UInt8) ∉ before) :
    ofUtf8Lossy (before ++ 10 :: after) = ofUtf8Lossy before ++ '\n' :: ofUtf8Lossy after := by
  rw [ofUtf8Lossy_eq_readFrom, ofUtf8Lossy_eq_readFrom, ofUtf8Lossy_eq_readFrom]
  exact readFrom_append_newline (by simp) line

/-- Bytes are a last line, or a line that ends and the bytes after it. -/
@[elab_as_elim]
theorem lines_induction {motive : List UInt8 → Prop}
    (last : ∀ line, (10 : UInt8) ∉ line → motive line)
    (more : ∀ line rest, (10 : UInt8) ∉ line → motive rest → motive (line ++ 10 :: rest))
    (bytes : List UInt8) : motive bytes := by
  induction size : bytes.length using Nat.strongRecOn generalizing bytes with
  | ind size ih =>
    by_cases ends : (10 : UInt8) ∈ bytes
    · obtain ⟨line, rest, rfl, whole⟩ := List.eq_append_cons_of_mem ends
      refine more line rest whole (ih rest.length ?_ rest rfl)
      rw [← size, List.length_append, List.length_cons]
      omega
    · exact last bytes ends

/-- What is before a newline and what is behind it read as they do alone. -/
theorem ofUtf8Lossy_append (before after : List UInt8) :
    ofUtf8Lossy (before ++ 10 :: after) = ofUtf8Lossy before ++ '\n' :: ofUtf8Lossy after := by
  induction before using lines_induction with
  | last line whole => exact ofUtf8Lossy_append_newline whole
  | more line rest whole ih =>
    rw [List.append_assoc, List.cons_append, ofUtf8Lossy_append_newline whole, ih,
      ofUtf8Lossy_append_newline whole, List.append_assoc, List.cons_append]

/-- The lines of what bytes read as are what the lines of the bytes read as. -/
theorem splitOn_ofUtf8Lossy (bytes : List UInt8) :
    (ofUtf8Lossy bytes).splitOn '\n' = (bytes.splitOn 10).map ofUtf8Lossy := by
  induction bytes using lines_induction with
  | last line whole =>
    rw [List.splitOn_eq_singleton whole,
      List.splitOn_eq_singleton (newline_not_mem_ofUtf8Lossy whole), List.map_singleton]
  | more line rest whole ih =>
    rw [ofUtf8Lossy_append_newline whole, List.splitOn_append_cons_self_of_not_mem whole,
      List.splitOn_append_cons_self_of_not_mem (newline_not_mem_ofUtf8Lossy whole), ih,
      List.map_cons]

/-! ### Length -/

/-- A byte adds one character at most, and one more if it gives up an unfinished one. -/
theorem Decoding.length_step_le (unfinished : Option Unfinished) (byte : UInt8) :
    let next := step ⟨[], unfinished, true⟩ byte
    next.found.length + next.unfinished.toList.length ≤ unfinished.toList.length + 1 := by
  have begun : (begin ⟨[], none, true⟩ byte.toNat).found.length +
      (begin ⟨[], none, true⟩ byte.toNat).unfinished.toList.length ≤ 1 := by
    unfold begin
    cases Lead.ofByte byte.toNat <;> exact Nat.le_refl 1
  cases unfinished with
  | none => exact begun
  | some held =>
    unfold step
    dsimp only
    split
    · split <;> simp
    · have given := begin_eq (abandon ⟨[], some held, true⟩) byte.toNat
      rw [given.1, given.2, List.length_append]
      have one : (abandon ⟨[], some held, true⟩).found.length = 1 := rfl
      rw [one, Option.toList_some, List.length_singleton]
      omega

/-- Bytes read as at most one character each, and one more for an unfinished character. -/
theorem length_readFrom_le (unfinished : Option Unfinished) (bytes : List UInt8) :
    (readFrom unfinished bytes).length ≤ unfinished.toList.length + bytes.length := by
  induction bytes generalizing unfinished with
  | nil => cases unfinished <;> simp [readFrom]
  | cons byte rest ih =>
    have step := Decoding.length_step_le unfinished byte
    have later := ih (Decoding.step ⟨[], unfinished, true⟩ byte).unfinished
    rw [readFrom_cons, List.length_append, List.length_reverse, List.length_cons]
    omega

/-- Bytes read as no more characters than there are bytes. -/
theorem length_ofUtf8Lossy_le (bytes : List UInt8) : (ofUtf8Lossy bytes).length ≤ bytes.length := by
  have read := length_readFrom_le none bytes
  rwa [Option.toList_none, List.length_nil, Nat.zero_add, ← ofUtf8Lossy_eq_readFrom] at read

/-- Bytes of ASCII read as one character each. -/
theorem length_ofUtf8Lossy_of_ascii (ascii : ∀ byte ∈ bytes, byte.toNat < 0x80) :
    (ofUtf8Lossy bytes).length = bytes.length := by
  rw [ofUtf8Lossy_eq_readFrom]
  induction bytes with
  | nil => rfl
  | cons byte rest ih =>
    obtain ⟨first, others⟩ := List.forall_mem_cons.mp ascii
    have whole : Lead.ofByte byte.toNat = .whole (Char.ofNat byte.toNat) := if_pos first
    have next : Decoding.step ⟨[], none, true⟩ byte = ⟨[Char.ofNat byte.toNat], none, true⟩ := by
      simp only [Decoding.step, Decoding.begin, whole]
    rw [readFrom_cons, next, List.length_append, ih others]
    exact Nat.add_comm 1 _

/-- A byte adds a character or leaves one unfinished. -/
theorem Decoding.found_or_unfinished_step (unfinished : Option Unfinished) (byte : UInt8) :
    (step ⟨[], unfinished, true⟩ byte).found ≠ [] ∨
      (step ⟨[], unfinished, true⟩ byte).unfinished ≠ none := by
  cases unfinished with
  | none =>
    have begun : step ⟨[], none, true⟩ byte = begin ⟨[], none, true⟩ byte.toNat := rfl
    rw [begun, begin]
    cases lead : Lead.ofByte byte.toNat <;> simp
  | some held =>
    unfold step
    dsimp only
    split
    · split <;> simp
    · have given := begin_eq (abandon ⟨[], some held, true⟩) byte.toNat
      left
      rw [given.1]
      exact List.append_ne_nil_of_right_ne_nil _ (List.cons_ne_nil _ _)

/-- Only no bytes at all read as an empty text. -/
theorem readFrom_eq_nil_iff :
    readFrom unfinished bytes = [] ↔ unfinished = none ∧ bytes = [] := by
  induction bytes generalizing unfinished with
  | nil => cases unfinished <;> simp [readFrom]
  | cons byte rest ih =>
    have added := Decoding.found_or_unfinished_step unfinished byte
    rw [readFrom_cons, List.append_eq_nil_iff, List.reverse_eq_nil_iff, ih]
    simp only [List.cons_ne_nil, and_false, iff_false, not_and]
    exact fun nothing none => (added.resolve_left (not_not_intro nothing) none).elim

/-- Bytes read as nothing only if there are none. -/
theorem ofUtf8Lossy_eq_nil_iff : ofUtf8Lossy bytes = [] ↔ bytes = [] := by
  rw [ofUtf8Lossy_eq_readFrom, readFrom_eq_nil_iff, eq_self, true_and]
end QueryTail.Text
