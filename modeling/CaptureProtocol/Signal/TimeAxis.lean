import CaptureProtocol.Binary64

/-!
# The time axis of a signal

Times of a signal are counted in ticks.  A tick lasts a fraction of a second.

* `TimeAxis` — the fraction, and the ticks between samples where they are evenly spaced;
* `timeOf?` — the nanoseconds of a number of ticks, computed in 128-bit words; where a product overflows there is no
  time, and whoever asked for it fails;
* `interval` — the seconds between samples.
-/

namespace CaptureProtocol

/-- The time axis of a signal. -/
structure TimeAxis where
  /-- A tick lasts `num / den` seconds. -/
  num : UInt64
  /-- A tick lasts `num / den` seconds. -/
  den : UInt64
  /-- The ticks between samples, where they are evenly spaced. -/
  delta : Option UInt64
deriving DecidableEq, Inhabited, Repr

namespace TimeAxis

/-- An axis with one tick per microsecond. -/
def microseconds (delta : Option UInt64) : TimeAxis := ⟨1, 1000000, delta⟩

/-- An axis with one tick per nanosecond. -/
def nanoseconds (delta : Option UInt64) : TimeAxis := ⟨1, 1000000000, delta⟩

/-- The product of two numbers; none where it overflows a 128-bit word. -/
def wordProduct? (left right : Nat) : Option Nat :=
  if left * right < 0x100000000000000000000000000000000 then some (left * right) else none

/-- A number of ticks times the length of a tick, in `1 / den` nanoseconds; none where a product overflows. -/
def scaledTicks? (axis : TimeAxis) (ticks : UInt64) : Option Nat :=
  (wordProduct? ticks.toNat axis.num.toNat).bind (wordProduct? · 1000000000)

/-- A time in nanoseconds, rounded down and kept within 64 bits; 0 where ticks have no length, none where a product
overflows. -/
def timeOf? (axis : TimeAxis) (ticks : UInt64) : Option UInt64 :=
  if axis.den = 0 then some 0
  else (axis.scaledTicks? ticks).map fun scaled =>
    UInt64.ofNat (Nat.min (scaled / axis.den.toNat) 0xFFFFFFFFFFFFFFFF)

/-- The time between samples in seconds; 0 where samples are not evenly spaced or ticks have no length. -/
def interval (axis : TimeAxis) : Binary64 :=
  match axis.delta with
  | none => .zero
  | some delta =>
    if axis.den = 0 then .zero
    else Binary64.ofUInt64 delta * Binary64.ofUInt64 axis.num / Binary64.ofUInt64 axis.den

end TimeAxis

end CaptureProtocol
