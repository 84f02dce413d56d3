import CaptureProtocol.Binary32

/-!
# Binary64 words

Sample values, scales and ranges are 64-bit floating-point words.

* `significand`, `power` — a finite word denotes `± significand · 2 ^ power`;
* `nearestWithin` — the nearest integer, halves away from zero, brought into given bounds;
* `narrow` / `widen` — conversion to and from 32-bit words: to the nearest word with ties to even, and exactly;
* the arithmetic of `Float` on the words.

`nearestWithin_bounds` keeps every result of the integer conversion inside its bounds.

Fields are cut out of a word with the weights of their lowest bits, which are written in hexadecimal.
-/

namespace CaptureProtocol

/-- A 64-bit floating-point word: one sign bit, eleven exponent bits, 52 fraction bits. -/
structure Binary64 where
  /-- The interchange word. -/
  bits : UInt64
deriving DecidableEq, Inhabited, Repr

namespace Binary64

/-! ### Fields -/

/-- The sign bit: 1 for negative words. -/
def sign (word : Binary64) : Nat := word.bits.toNat / 0x8000000000000000

/-- The biased exponent field. -/
def exponent (word : Binary64) : Nat := word.bits.toNat / 0x10000000000000 % 0x800

/-- The fraction field. -/
def fraction (word : Binary64) : Nat := word.bits.toNat % 0x10000000000000

/-- The word with the given fields. -/
def ofFields (sign exponent fraction : Nat) : Binary64 :=
  ⟨UInt64.ofNat (sign * 0x8000000000000000 + exponent * 0x10000000000000 + fraction)⟩

/-- Exponent field all ones with a fraction: not a number. -/
def isNaN (word : Binary64) : Bool := word.exponent == 2047 && word.fraction != 0

/-- Neither infinite nor not a number. -/
def isFinite (word : Binary64) : Bool := word.exponent != 2047

/-- The significand of a finite word: the fraction, with the leading one of a normal word. -/
def significand (word : Binary64) : Nat :=
  if word.exponent = 0 then word.fraction else 0x10000000000000 + word.fraction

/-- The power of two that scales the significand of a finite word. -/
def power (word : Binary64) : Int := (max word.exponent 1 : Nat) - 1075

/-! ### Conversion to integers -/

/-- The magnitude of a finite word rounded to an integer, a half going up. -/
def nearestMagnitude (word : Binary64) : Nat :=
  match word.power with
  | .ofNat up => word.significand <<< up
  | .negSucc down => (2 * word.significand + (1 <<< (down + 1))) >>> (down + 2)

/-- The integer nearest to a word, halves going away from zero, brought into `[low, high]`; an infinite word
gives the bound on its side, and zero stands for what is not a number. -/
def nearestWithin (low high : Int) (word : Binary64) : Int :=
  if word.isNaN then 0
  else if word.isFinite then
    let magnitude : Int := word.nearestMagnitude
    max low (min high (if word.sign = 1 then -magnitude else magnitude))
  else if word.sign = 1 then low
  else high

/-- Bounds around zero hold every result. -/
theorem nearestWithin_bounds {low high : Int} (hlow : low ≤ 0) (hhigh : 0 ≤ high) (word : Binary64) :
    low ≤ word.nearestWithin low high ∧ word.nearestWithin low high ≤ high := by
  unfold nearestWithin
  split
  · exact ⟨hlow, hhigh⟩
  · split
    · dsimp only
      constructor <;> omega
    · split <;> omega

/-! ### Conversion to and from 32-bit words -/

/-- A quotient by a power of two rounded to the nearest integer, a tie going to the even one. -/
def shiftToEven (value shift : Nat) : Nat :=
  let divisor := 1 <<< shift
  let quotient := value / divisor
  let doubled := 2 * (value % divisor)
  if divisor < doubled || (doubled == divisor && quotient % 2 == 1) then quotient + 1 else quotient

/-- The nearest 32-bit word, a tie going to the even fraction; magnitudes past the largest finite word become
infinite, and what is not a number keeps its sign and the leading bits of its fraction. -/
def narrow (word : Binary64) : Binary32 :=
  if word.isNaN then
    .ofFields word.sign 255 (0x400000 + word.fraction / 0x20000000 % 0x400000)
  else if word.isFinite then
    let scale : Nat := max (max word.exponent 1) 897
    let rounded := shiftToEven word.significand (scale - max word.exponent 1 + 29)
    let magnitude := (scale - 897) * 0x800000 + rounded
    ⟨UInt32.ofNat (word.sign * 0x80000000 + min magnitude 0x7F800000)⟩
  else .ofFields word.sign 255 0

/-- The 64-bit word of the same value as a 32-bit word. -/
def widen (word : Binary32) : Binary64 :=
  if word.exponent = 255 then
    .ofFields word.sign 2047
      (if word.fraction = 0 then 0 else 0x8000000000000 + word.fraction % 0x400000 * 0x20000000)
  else if word.exponent = 0 then
    if word.fraction = 0 then .ofFields word.sign 0 0
    else
      let width := word.fraction.log2
      .ofFields word.sign (874 + width) ((word.fraction <<< (52 - width)) % 0x10000000000000)
  else .ofFields word.sign (word.exponent + 896) (word.fraction * 0x20000000)

/-! ### Arithmetic -/

/-- The number that a word denotes. -/
def toFloat (word : Binary64) : Float := Float.ofBits word.bits

/-- The word of a number. -/
def ofFloat (number : Float) : Binary64 := ⟨number.toBits⟩

/-- The nearest word to an unsigned integer. -/
def ofUInt64 (value : UInt64) : Binary64 := ofFloat value.toFloat

/-- The word of a signed 32-bit integer, which is exact. -/
def ofInt32 (value : Int32) : Binary64 :=
  let magnitude := (UInt32.ofNat value.toInt.natAbs).toFloat
  ofFloat (if value < 0 then -magnitude else magnitude)

/-- Positive zero. -/
def zero : Binary64 := ⟨0⟩

/-- The word of 1. -/
def one : Binary64 := .ofFields 0 1023 0

/-- The word of `2 ^ 24`. -/
def two24 : Binary64 := .ofFields 0 1047 0

instance : Add Binary64 := ⟨fun left right => ofFloat (left.toFloat + right.toFloat)⟩
instance : Sub Binary64 := ⟨fun left right => ofFloat (left.toFloat - right.toFloat)⟩
instance : Mul Binary64 := ⟨fun left right => ofFloat (left.toFloat * right.toFloat)⟩
instance : Div Binary64 := ⟨fun left right => ofFloat (left.toFloat / right.toFloat)⟩

/-- Strictly less as numbers; false where one is not a number. -/
def lt (left right : Binary64) : Bool := left.toFloat < right.toFloat

/-- At most as numbers; false where one is not a number. -/
def le (left right : Binary64) : Bool := left.toFloat ≤ right.toFloat

end Binary64

end CaptureProtocol
