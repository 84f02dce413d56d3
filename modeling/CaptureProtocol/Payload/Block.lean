import CaptureProtocol.Reader
import CaptureProtocol.Text.Utf8

/-!
# Length-prefixed blocks

Status payloads end in blocks of variable length, each behind a 16-bit length.

* `writeData` / `readData` — a block of bytes;
* `writeText` / `readText` — a block of text, padded with one zero byte to an even length; trailing zero bytes are
  not part of the text that is read;
* `textLength`, `writeText_length` — the number of bytes of a text block.
-/

namespace CaptureProtocol.Block

/-- The 16-bit length field; a length past its range is cut to its low bits. -/
def lengthField (length : Nat) : Bytes := Bytes.ofUInt16 (UInt16.ofNat length)

/-- A block of bytes. -/
def writeData (data : Bytes) : Bytes := lengthField data.length ++ data

/-- Reads a block of bytes. -/
def readData : Reader Bytes := do
  let length ← Reader.u16
  Reader.take length.toNat

/-- A zero byte where a length is odd. -/
def evenPadding (length : Nat) : Bytes := if length % 2 = 1 then [0] else []

/-- The number of bytes of a text, brought to an even number. -/
def paddedLength (text : String) : Nat := Bytes.evenLength (Utf8.encode text).length

/-- The number of bytes of a text block. -/
def textLength (text : String) : Nat := 2 + paddedLength text

/-- A block of text. -/
def writeText (text : String) : Bytes :=
  let bytes := Utf8.encode text
  lengthField (paddedLength text) ++ bytes ++ evenPadding bytes.length

/-- A byte string without the zero bytes at its end. -/
def trimZeros (bytes : Bytes) : Bytes := (bytes.reverse.dropWhile (· == 0)).reverse

/-- Reads a block of text. -/
def readText : Reader String := do
  let bytes ← readData
  return Utf8.decodeLossy (trimZeros bytes)

@[simp] theorem evenPadding_length (length : Nat) : (evenPadding length).length = length % 2 := by
  unfold evenPadding
  split <;> simp_all

@[simp] theorem writeData_length (data : Bytes) : (writeData data).length = 2 + data.length := by
  simp [writeData, lengthField]

@[simp] theorem writeText_length (text : String) : (writeText text).length = textLength text := by
  simp [writeText, lengthField, textLength, paddedLength, Bytes.evenLength]

/-- A block whose length fits its field is read back from in front of any rest. -/
theorem readData_append (data rest : Bytes) (h : Bytes.fitsLengthField data.length = true) :
    readData (writeData data ++ rest) = some (data, rest) := by
  simp only [Bytes.fitsLengthField, decide_eq_true_eq] at h
  simp only [readData, writeData, lengthField, List.append_assoc, Reader.bind_apply, Reader.u16_append,
    Option.bind_some, UInt16.toNat_ofNat']
  rw [Nat.mod_eq_of_lt (by omega), Reader.take_append]

end CaptureProtocol.Block
