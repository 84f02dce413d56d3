/-!
# Byte strings and big-endian words

Every field of the protocol is an unsigned word written most significant byte first.

* `bigEndian` / `value` — the bytes of a word of a given width, and the word that bytes denote;
* `wordCount` — the number of words of a width;
* `bigEndian_length`, `value_lt` — the width fixes the length, the length bounds the word;
* `value_bigEndian`, `bigEndian_value` — the two are inverse: a word is recovered modulo the number of words of
  its width, a byte string is recovered exactly.
-/

namespace CaptureProtocol

/-- A byte string, first byte first. -/
abbrev Bytes := List UInt8

namespace Bytes

/-- The `width` low bytes of a word, most significant first. -/
def bigEndian : Nat → Nat → Bytes
  | 0, _ => []
  | width + 1, word => bigEndian width (word / 256) ++ [UInt8.ofNat word]

/-- The word that a byte string denotes. -/
def value (bytes : Bytes) : Nat :=
  bytes.foldl (fun word byte => word * 256 + byte.toNat) 0

/-- The number of words of `width` bytes. -/
def wordCount : Nat → Nat
  | 0 => 1
  | width + 1 => 256 * wordCount width

@[simp] theorem bigEndian_length (width word : Nat) : (bigEndian width word).length = width := by
  induction width generalizing word with
  | zero => rfl
  | succ width ih => simp [bigEndian, ih]

/-- One more byte on the right: the word moves up by one place. -/
theorem value_snoc (bytes : Bytes) (byte : UInt8) :
    value (bytes ++ [byte]) = value bytes * 256 + byte.toNat := by
  simp [value, List.foldl_append]

/-- Writing then reading recovers the word, cut to the width. -/
theorem value_bigEndian (width word : Nat) :
    value (bigEndian width word) = word % wordCount width := by
  induction width generalizing word with
  | zero => simp [bigEndian, value, wordCount, Nat.mod_one]
  | succ width ih =>
    have low : (UInt8.ofNat word).toNat = word % 256 := UInt8.toNat_ofNat'
    rw [bigEndian, value_snoc, ih, wordCount, Nat.mod_mul, low]
    omega

/-- A byte string denotes one of the words of its length. -/
theorem value_lt (bytes : Bytes) : value bytes < wordCount bytes.length := by
  rcases List.eq_nil_or_concat bytes with rfl | ⟨front, last, rfl⟩
  · simp [value, wordCount]
  · have ih := value_lt front
    have hlast := last.toNat_lt
    rw [List.concat_eq_append, value_snoc, List.length_append, List.length_singleton, wordCount]
    omega
termination_by bytes.length

/-- Reading then writing recovers the bytes. -/
theorem bigEndian_value (bytes : Bytes) : bigEndian bytes.length (value bytes) = bytes := by
  rcases List.eq_nil_or_concat bytes with rfl | ⟨front, last, rfl⟩
  · rfl
  · have ih := bigEndian_value front
    have hlast := last.toNat_lt
    rw [List.concat_eq_append, value_snoc, List.length_append, List.length_singleton, bigEndian,
      show (value front * 256 + last.toNat) / 256 = value front from by omega, ih]
    congr 1
    simp [UInt8.ofNat_add]
termination_by bytes.length

/-! ### Words of the four widths in use -/

/-- The two bytes of a 16-bit word. -/
def ofUInt16 (word : UInt16) : Bytes := bigEndian 2 word.toNat

/-- The four bytes of a 32-bit word. -/
def ofUInt32 (word : UInt32) : Bytes := bigEndian 4 word.toNat

/-- The eight bytes of a 64-bit word. -/
def ofUInt64 (word : UInt64) : Bytes := bigEndian 8 word.toNat

@[simp] theorem ofUInt16_length (word : UInt16) : (ofUInt16 word).length = 2 := bigEndian_length ..
@[simp] theorem ofUInt32_length (word : UInt32) : (ofUInt32 word).length = 4 := bigEndian_length ..
@[simp] theorem ofUInt64_length (word : UInt64) : (ofUInt64 word).length = 8 := bigEndian_length ..

/-- Whether a byte string holds only zero bytes. -/
def allZero (bytes : Bytes) : Bool := bytes.all (· == 0)

/-- A length rounded up to an even number. -/
def evenLength (length : Nat) : Nat := length + length % 2

/-- Whether a length fits a 16-bit length field. -/
def fitsLengthField (length : Nat) : Bool := length ≤ 65535

end Bytes

end CaptureProtocol
