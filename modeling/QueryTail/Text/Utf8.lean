/-!
# UTF-8

Writing text as UTF-8 bytes and reading it back. Reading goes byte by byte and never fails: each
longest start of a character that cannot be continued is read as one replacement character, and
the byte that broke it off is looked at anew. `Decoding.clean` tells whether that ever happened, so
the strict reading is the same reading with a question at its end.
-/

namespace QueryTail.Text

/-- The UTF-8 form of a text. -/
def utf8 (text : List Char) : List UInt8 :=
  text.flatMap String.utf8EncodeChar

/-- The character that stands for bytes that are not UTF-8. -/
def replacement : Char := '\uFFFD'

/-- A character of which the first bytes were read. -/
structure Unfinished where
  /-- The bits read so far. -/
  bits : Nat
  /-- How many bytes are still to come. -/
  missing : Nat
  /-- The least value that the next byte may have. -/
  low : Nat
  /-- The greatest value that the next byte may have. -/
  high : Nat

/-- What a byte that does not continue a character starts. -/
inductive Lead where
  | whole (c : Char)
  | starts (unfinished : Unfinished)
  | bad

/-- What a first byte starts. The bounds on the second byte rule out overlong forms, surrogates
and code points above U+10FFFF. -/
def Lead.ofByte (byte : Nat) : Lead :=
  if byte < 0x80 then .whole (Char.ofNat byte)
  else if byte < 0xC2 then .bad
  else if byte < 0xE0 then .starts ⟨byte - 0xC0, 1, 0x80, 0xBF⟩
  else if byte = 0xE0 then .starts ⟨0, 2, 0xA0, 0xBF⟩
  else if byte = 0xED then .starts ⟨0xD, 2, 0x80, 0x9F⟩
  else if byte < 0xF0 then .starts ⟨byte - 0xE0, 2, 0x80, 0xBF⟩
  else if byte = 0xF0 then .starts ⟨0, 3, 0x90, 0xBF⟩
  else if byte < 0xF4 then .starts ⟨byte - 0xF0, 3, 0x80, 0xBF⟩
  else if byte = 0xF4 then .starts ⟨4, 3, 0x80, 0x8F⟩
  else .bad

/-- A reading of bytes under way. -/
structure Decoding where
  /-- The characters read so far, last first. -/
  found : List Char
  unfinished : Option Unfinished
  /-- All bytes so far are UTF-8. -/
  clean : Bool

namespace Decoding

/-- The reading before the first byte. -/
def start : Decoding := ⟨[], none, true⟩

/-- Read a byte between two characters. -/
def begin (decoding : Decoding) (byte : Nat) : Decoding :=
  match Lead.ofByte byte with
  | .whole c => ⟨c :: decoding.found, none, decoding.clean⟩
  | .starts unfinished => ⟨decoding.found, some unfinished, decoding.clean⟩
  | .bad => ⟨replacement :: decoding.found, none, false⟩

/-- Give up an unfinished character. -/
def abandon (decoding : Decoding) : Decoding :=
  match decoding.unfinished with
  | none => decoding
  | some _ => ⟨replacement :: decoding.found, none, false⟩

/-- Read the next byte. -/
def step (decoding : Decoding) (byte : UInt8) : Decoding :=
  let byte := byte.toNat
  match decoding.unfinished with
  | none => decoding.begin byte
  | some ⟨bits, missing, low, high⟩ =>
    if low ≤ byte ∧ byte ≤ high then
      let bits := 64 * bits + (byte - 0x80)
      if missing = 1 then ⟨Char.ofNat bits :: decoding.found, none, decoding.clean⟩
      else ⟨decoding.found, some ⟨bits, missing - 1, 0x80, 0xBF⟩, decoding.clean⟩
    else decoding.abandon.begin byte

/-- The reading of whole bytes. -/
def ofBytes (bytes : List UInt8) : Decoding :=
  (bytes.foldl step start).abandon

end Decoding

/-- The text of bytes, with replacement characters for what is not UTF-8. -/
def ofUtf8Lossy (bytes : List UInt8) : List Char :=
  (Decoding.ofBytes bytes).found.reverse

/-- The text of bytes that are UTF-8 throughout. -/
def ofUtf8? (bytes : List UInt8) : Option (List Char) :=
  let decoding := Decoding.ofBytes bytes
  if decoding.clean then some decoding.found.reverse else none

@[simp] theorem utf8_nil : utf8 [] = [] := rfl

/-- The bytes of two texts in a row are the bytes of each in a row. -/
theorem utf8_append (left right : List Char) : utf8 (left ++ right) = utf8 left ++ utf8 right := by
  simp [utf8]

@[simp] theorem ofUtf8Lossy_nil : ofUtf8Lossy [] = [] := rfl

end QueryTail.Text
