import CaptureProtocol.Bytes

/-!
# UTF-8 text on the wire

Status strings are UTF-8.  Writing is exact; reading accepts any bytes, and each longest piece that cannot begin
a well-formed character is read as one replacement character.

* `encode` — the bytes of a text;
* `continuations`, `secondBounds` — how many bytes follow a leading byte, and the bounds of the first of them;
* `extend` — reads the bytes that continue a character; `extend_length_le`: it gives back no more than it got;
* `decodeLossy` — the text of any byte string.
-/

namespace CaptureProtocol.Utf8

/-- The bytes of a text. -/
def encode (text : String) : Bytes := text.toList.flatMap String.utf8EncodeChar

/-- Stands for a piece that cannot be read. -/
def replacement : Char := '\uFFFD'

/-- How many bytes follow a leading byte; none for a byte that leads no character. -/
def continuations (lead : UInt8) : Option Nat :=
  if lead < 0x80 then some 0
  else if 0xC2 ≤ lead && lead ≤ 0xDF then some 1
  else if 0xE0 ≤ lead && lead ≤ 0xEF then some 2
  else if 0xF0 ≤ lead && lead ≤ 0xF4 then some 3
  else none

/-- The bounds of the byte after a leading byte.  They exclude overlong forms, surrogates and code points past
the last one. -/
def secondBounds (lead : UInt8) : UInt8 × UInt8 :=
  if lead = 0xE0 then (0xA0, 0xBF)
  else if lead = 0xED then (0x80, 0x9F)
  else if lead = 0xF0 then (0x90, 0xBF)
  else if lead = 0xF4 then (0x80, 0x8F)
  else (0x80, 0xBF)

/-- The bits of the code point that a leading byte carries. -/
def leadBits (lead : UInt8) (count : Nat) : Nat :=
  if count = 0 then lead.toNat else lead.toNat % (1 <<< (6 - count))

/-- Reads the bytes that continue a character, the first of them within the given bounds.  A byte out of bounds
is left for the next character. -/
def extend : Nat → Nat → UInt8 × UInt8 → Bytes → Char × Bytes
  | 0, code, _, rest => (Char.ofNat code, rest)
  | _ + 1, _, _, [] => (replacement, [])
  | count + 1, code, (low, high), byte :: rest =>
    if low ≤ byte && byte ≤ high then extend count (code * 64 + byte.toNat % 64) (0x80, 0xBF) rest
    else (replacement, byte :: rest)

theorem extend_length_le (count code : Nat) (bounds : UInt8 × UInt8) (rest : Bytes) :
    (extend count code bounds rest).2.length ≤ rest.length := by
  induction count generalizing code bounds rest with
  | zero => simp [extend]
  | succ count ih =>
    cases rest with
    | nil => simp [extend]
    | cons byte rest =>
      simp only [extend]
      split
      · exact Nat.le_trans (ih ..) (by simp)
      · simp

/-- The character that begins with a leading byte, and what is left. -/
def decodeFrom (lead : UInt8) (rest : Bytes) : Char × Bytes :=
  match continuations lead with
  | none => (replacement, rest)
  | some count => extend count (leadBits lead count) (secondBounds lead) rest

theorem decodeFrom_length_le (lead : UInt8) (rest : Bytes) :
    (decodeFrom lead rest).2.length ≤ rest.length := by
  unfold decodeFrom
  split
  · simp
  · exact extend_length_le ..

/-- The characters of a byte string, after those read before, latest first. -/
def decodeAfter (read : List Char) (bytes : Bytes) : List Char :=
  match bytes with
  | [] => read.reverse
  | lead :: rest =>
    have := decodeFrom_length_le lead rest
    decodeAfter ((decodeFrom lead rest).1 :: read) (decodeFrom lead rest).2
termination_by bytes.length
decreasing_by simp only [List.length_cons]; omega

/-- The text of a byte string. -/
def decodeLossy (bytes : Bytes) : String := String.ofList (decodeAfter [] bytes)

end CaptureProtocol.Utf8
