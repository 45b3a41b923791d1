import Mathlib.Data.List.Basic
import QueryTail.Text.Utf8

/-!
# UTF-8 read back

A text written as UTF-8 reads as the same text, and the strict reading accepts it
(`ofUtf8?_utf8`). The argument follows one character: its first byte says how many bytes follow and
bounds the second one, and neither bound leaves out a character.
-/

namespace QueryTail.Text

variable {found : List Char} {clean : Bool} {bits missing low high : Nat} {byte : UInt8}

/-! ### Single bytes -/

/-- A number below 256 is a byte. -/
theorem toNat_ofNat_byte {n : Nat} (small : n < 256) : (UInt8.ofNat n).toNat = n :=
  UInt8.toNat_ofNat_of_lt' small

/-- The first byte of a character of two bytes. -/
theorem Lead.ofByte_two (first : Nat) (least : 0xC2 ≤ first) (greatest : first ≤ 0xDF) :
    Lead.ofByte first = .starts ⟨first - 0xC0, 1, 0x80, 0xBF⟩ := by
  unfold ofByte
  rw [if_neg (by omega), if_neg (by omega), if_pos (by omega)]

/-- The first byte of a character of three bytes. The bounds on the second byte leave out what fits
two bytes, and surrogates. -/
theorem Lead.ofByte_three (first : Nat) (least : 0xE0 ≤ first) (greatest : first ≤ 0xEF) :
    Lead.ofByte first = .starts ⟨first - 0xE0, 2, if first = 0xE0 then 0xA0 else 0x80,
      if first = 0xED then 0x9F else 0xBF⟩ := by
  unfold ofByte
  rw [if_neg (by omega), if_neg (by omega), if_neg (by omega)]
  by_cases short : first = 0xE0
  · subst short
    rfl
  · by_cases surrogate : first = 0xED
    · subst surrogate
      rfl
    · rw [if_neg short, if_neg surrogate, if_pos (by omega), if_neg short, if_neg surrogate]

/-- The first byte of a character of four bytes. The bounds on the second byte leave out what fits
three bytes, and codes that are too great. -/
theorem Lead.ofByte_four (first : Nat) (least : 0xF0 ≤ first) (greatest : first ≤ 0xF4) :
    Lead.ofByte first = .starts ⟨first - 0xF0, 3, if first = 0xF0 then 0x90 else 0x80,
      if first = 0xF4 then 0x8F else 0xBF⟩ := by
  have cases : first = 0xF0 ∨ first = 0xF1 ∨ first = 0xF2 ∨ first = 0xF3 ∨ first = 0xF4 := by
    omega
  rcases cases with rfl | rfl | rfl | rfl | rfl <;> rfl

namespace Decoding

/-- A first byte of several starts a character. -/
theorem step_starts {unfinished : Unfinished}
    (starts : Lead.ofByte byte.toNat = .starts unfinished) :
    step ⟨found, none, clean⟩ byte = ⟨found, some unfinished, clean⟩ := by
  simp only [step, begin, starts]

/-- A byte within the bounds goes on with the character. -/
theorem step_more (least : low ≤ byte.toNat) (greatest : byte.toNat ≤ high) :
    step ⟨found, some ⟨bits, missing + 2, low, high⟩, clean⟩ byte =
      ⟨found, some ⟨64 * bits + (byte.toNat - 0x80), missing + 1, 0x80, 0xBF⟩, clean⟩ := by
  simp only [step]
  rw [if_pos ⟨least, greatest⟩, if_neg (by omega)]
  rfl

/-- The last byte ends the character. -/
theorem step_last (least : low ≤ byte.toNat) (greatest : byte.toNat ≤ high) :
    step ⟨found, some ⟨bits, 1, low, high⟩, clean⟩ byte =
      ⟨Char.ofNat (64 * bits + (byte.toNat - 0x80)) :: found, none, clean⟩ := by
  simp only [step]
  rw [if_pos ⟨least, greatest⟩, if_pos trivial]

/-! ### Characters

One lemma for each number of bytes: the bytes that are written for a code read as its character. -/

section Codes

variable {code : Nat}

/-- The last six bits of a number, as they are written in a byte. -/
theorem toNat_tail (n : Nat) : (UInt8.ofNat (n % 64 + 128)).toNat = n % 64 + 128 :=
  toNat_ofNat_byte (by omega)

/-- The one byte of a small code is decoded to its character. -/
theorem foldl_one (greatest : code ≤ 0x7F) :
    [UInt8.ofNat code].foldl step ⟨found, none, clean⟩ =
      ⟨Char.ofNat code :: found, none, clean⟩ := by
  have whole : Lead.ofByte (UInt8.ofNat code).toNat = .whole (Char.ofNat code) := by
    rw [toNat_ofNat_byte (by omega), Lead.ofByte, if_pos (by omega)]
  simp only [List.foldl_cons, List.foldl_nil, step, begin, whole]

/-- The two bytes of a code are decoded to its character. -/
theorem foldl_two (least : 0x80 ≤ code) (greatest : code ≤ 0x7FF) :
    [UInt8.ofNat (code / 64 % 32 + 192), UInt8.ofNat (code % 64 + 128)].foldl step
        ⟨found, none, clean⟩ =
      ⟨Char.ofNat code :: found, none, clean⟩ := by
  have lead : (UInt8.ofNat (code / 64 % 32 + 192)).toNat = code / 64 % 32 + 192 :=
    toNat_ofNat_byte (by omega)
  have starts := Lead.ofByte_two (code / 64 % 32 + 192) (by omega) (by omega)
  rw [← lead] at starts
  have value : 64 * (code / 64 % 32 + 192 - 0xC0) + (code % 64 + 128 - 0x80) = code := by omega
  rw [List.foldl_cons, step_starts starts, List.foldl_cons,
    step_last (by rw [toNat_tail]; omega) (by rw [toNat_tail]; omega), List.foldl_nil, lead,
    toNat_tail, value]

/-- The three bytes of a code that is no surrogate are decoded to its character. -/
theorem foldl_three (least : 0x800 ≤ code) (greatest : code ≤ 0xFFFF)
    (noSurrogate : code < 0xD800 ∨ 0xDFFF < code) :
    [UInt8.ofNat (code / 4096 % 16 + 224), UInt8.ofNat (code / 64 % 64 + 128),
        UInt8.ofNat (code % 64 + 128)].foldl step ⟨found, none, clean⟩ =
      ⟨Char.ofNat code :: found, none, clean⟩ := by
  have lead : (UInt8.ofNat (code / 4096 % 16 + 224)).toNat = code / 4096 % 16 + 224 :=
    toNat_ofNat_byte (by omega)
  have starts := Lead.ofByte_three (code / 4096 % 16 + 224) (by omega) (by omega)
  rw [← lead] at starts
  have value : 64 * (64 * (code / 4096 % 16 + 224 - 0xE0) + (code / 64 % 64 + 128 - 0x80)) +
      (code % 64 + 128 - 0x80) = code := by omega
  rw [List.foldl_cons, step_starts starts, List.foldl_cons,
    step_more (by rw [toNat_tail, lead]; split <;> omega)
      (by rw [toNat_tail, lead]; split <;> omega),
    List.foldl_cons, step_last (by rw [toNat_tail]; omega) (by rw [toNat_tail]; omega),
    List.foldl_nil, lead, toNat_tail, toNat_tail, value]

/-- The four bytes of a code are decoded to its character. -/
theorem foldl_four (least : 0x10000 ≤ code) (greatest : code ≤ 0x10FFFF) :
    [UInt8.ofNat (code / 262144 % 8 + 240), UInt8.ofNat (code / 4096 % 64 + 128),
        UInt8.ofNat (code / 64 % 64 + 128), UInt8.ofNat (code % 64 + 128)].foldl step
        ⟨found, none, clean⟩ =
      ⟨Char.ofNat code :: found, none, clean⟩ := by
  have lead : (UInt8.ofNat (code / 262144 % 8 + 240)).toNat = code / 262144 % 8 + 240 :=
    toNat_ofNat_byte (by omega)
  have starts := Lead.ofByte_four (code / 262144 % 8 + 240) (by omega) (by omega)
  rw [← lead] at starts
  have value : 64 * (64 * (64 * (code / 262144 % 8 + 240 - 0xF0) +
      (code / 4096 % 64 + 128 - 0x80)) + (code / 64 % 64 + 128 - 0x80)) +
      (code % 64 + 128 - 0x80) = code := by omega
  rw [List.foldl_cons, step_starts starts, List.foldl_cons,
    step_more (by rw [toNat_tail, lead]; split <;> omega)
      (by rw [toNat_tail, lead]; split <;> omega),
    List.foldl_cons, step_more (by rw [toNat_tail]; omega) (by rw [toNat_tail]; omega),
    List.foldl_cons, step_last (by rw [toNat_tail]; omega) (by rw [toNat_tail]; omega),
    List.foldl_nil, lead, toNat_tail, toNat_tail, toNat_tail, value]

end Codes

/-- The bytes of a character are decoded to it. -/
theorem foldl_utf8EncodeChar (c : Char) :
    (String.utf8EncodeChar c).foldl step ⟨found, none, clean⟩ = ⟨c :: found, none, clean⟩ := by
  have valid : c.toNat < 0xD800 ∨ 0xDFFF < c.toNat ∧ c.toNat < 0x110000 := c.valid
  have same : Char.ofNat c.toNat = c := Char.ofNat_toNat c
  unfold String.utf8EncodeChar
  rw [show c.val.toNat = c.toNat from rfl]
  dsimp only
  split
  · next one => rw [foldl_one one, same]
  split
  · next one two => rw [foldl_two (by omega) two, same]
  split
  · next two three => rw [foldl_three (by omega) three (by omega), same]
  · next three => rw [foldl_four (by omega) (by omega), same]

/-- The bytes of a text are decoded to it. -/
theorem foldl_utf8 (text : List Char) :
    (utf8 text).foldl step ⟨found, none, clean⟩ = ⟨text.reverse ++ found, none, clean⟩ := by
  induction text generalizing found with
  | nil => rfl
  | cons c rest ih =>
    rw [utf8, List.flatMap_cons, List.foldl_append, foldl_utf8EncodeChar, ← utf8, ih,
      List.reverse_cons, List.append_assoc, List.singleton_append]

end Decoding

/-- A text that is written as UTF-8 is read back. -/
@[simp] theorem ofUtf8?_utf8 (text : List Char) : ofUtf8? (utf8 text) = some text := by
  have read : Decoding.ofBytes (utf8 text) = ⟨text.reverse, none, true⟩ := by
    rw [Decoding.ofBytes, Decoding.start, Decoding.foldl_utf8, List.append_nil]
    rfl
  rw [ofUtf8?, read]
  exact congrArg some (List.reverse_reverse text)

end QueryTail.Text
