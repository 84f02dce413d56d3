/-!
# Message flags

Every message carries one byte of flags.  Two of its bits say which part of a payload the message holds; the
other bits describe the payload.

* `Segmentation` — the position of a message's body in its payload;
* `MessageFlags` — the flag byte, with `segmentation` and `withSegmentation` reading and writing the two bits;
* `segmentation_withSegmentation`, `withSegmentation_withSegmentation` — the position is read back, and a later
  position replaces an earlier one.
-/

namespace CaptureProtocol

/-- The position of a message's body in the payload it belongs to. -/
inductive Segmentation where
  /-- The whole payload. -/
  | unsegmented
  | first
  /-- A part between the first and the last. -/
  | intermediary
  | last
deriving DecidableEq, Inhabited, Repr

namespace Segmentation

/-- The two bits of a position. -/
def toBits : Segmentation → UInt8
  | unsegmented => 0
  | first => 1
  | intermediary => 2
  | last => 3

/-- The position that two bits name; higher bits are not looked at. -/
def ofBits (bits : UInt8) : Segmentation :=
  if bits % 4 = 0 then unsegmented
  else if bits % 4 = 1 then first
  else if bits % 4 = 2 then intermediary
  else last

/-- The name of a position. -/
def name : Segmentation → String
  | unsegmented => "Unsegmented"
  | first => "First"
  | intermediary => "Intermediary"
  | last => "Last"

end Segmentation

/-- The flag byte of a message. -/
structure MessageFlags where
  /-- The transmitted byte. -/
  bits : UInt8
deriving DecidableEq, Inhabited, Repr

namespace MessageFlags

/-- No flag set. -/
def none : MessageFlags := ⟨0⟩

/-- The bits that hold the position. -/
def segmentationMask : UInt8 := 0x0C

/-- Whether every bit of `flag` is set. -/
def contains (flags : MessageFlags) (flag : UInt8) : Bool := flags.bits &&& flag == flag

/-- Sets the bits of `flag`. -/
def set (flags : MessageFlags) (flag : UInt8) : MessageFlags := ⟨flags.bits ||| flag⟩

/-- The position of the message's body. -/
def segmentation (flags : MessageFlags) : Segmentation :=
  .ofBits ((flags.bits &&& segmentationMask) >>> 2)

/-- Replaces the position. -/
def withSegmentation (flags : MessageFlags) (position : Segmentation) : MessageFlags :=
  ⟨(flags.bits &&& ~~~segmentationMask) ||| (position.toBits <<< 2)⟩

/-- The position that was set is read back. -/
@[simp] theorem segmentation_withSegmentation (flags : MessageFlags) (position : Segmentation) :
    (flags.withSegmentation position).segmentation = position := by
  obtain ⟨⟨bits⟩⟩ := flags
  cases position <;> revert bits <;> decide +kernel

/-- A later position replaces an earlier one. -/
@[simp] theorem withSegmentation_withSegmentation (flags : MessageFlags) (earlier later : Segmentation) :
    (flags.withSegmentation earlier).withSegmentation later = flags.withSegmentation later := by
  obtain ⟨⟨bits⟩⟩ := flags
  cases earlier <;> cases later <;> revert bits <;> decide +kernel

end MessageFlags

end CaptureProtocol
