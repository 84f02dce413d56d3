/-!
# Binary32 words

Analog payloads carry floating-point numbers as 32-bit interchange words.  They are kept as raw bits, so that a
payload is read and written without any change; their value is only looked at after widening to 64 bits.

* `sign`, `exponent`, `fraction` — the fields, cut out with the weights of their lowest bits;
* `ofFields` — the word of fields.
-/

namespace CaptureProtocol

/-- A 32-bit floating-point word: one sign bit, eight exponent bits, 23 fraction bits. -/
structure Binary32 where
  /-- The word as it is transmitted. -/
  bits : UInt32
deriving DecidableEq, Inhabited, Repr

namespace Binary32

/-- Positive zero. -/
def zero : Binary32 := ⟨0⟩

/-- The sign bit: 1 for negative words. -/
def sign (word : Binary32) : Nat := word.bits.toNat / 0x80000000

/-- The biased exponent field. -/
def exponent (word : Binary32) : Nat := word.bits.toNat / 0x800000 % 0x100

/-- The fraction field. -/
def fraction (word : Binary32) : Nat := word.bits.toNat % 0x800000

/-- Exponent field all ones with a fraction: not a number. -/
def isNaN (word : Binary32) : Bool := word.exponent == 255 && word.fraction != 0

/-- The word with the given fields. -/
def ofFields (sign exponent fraction : Nat) : Binary32 :=
  ⟨UInt32.ofNat (sign * 0x80000000 + exponent * 0x800000 + fraction)⟩

/-- Equality as numbers: zeros of either sign are equal, a word that is not a number equals nothing. -/
def numericallyEqual (left right : Binary32) : Bool :=
  !left.isNaN && !right.isNaN &&
    (left == right || (left.bits.toNat % 0x80000000 == 0 && right.bits.toNat % 0x80000000 == 0))

end Binary32

end CaptureProtocol
