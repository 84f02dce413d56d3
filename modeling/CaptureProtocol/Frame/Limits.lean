import CaptureProtocol.LinkError
import CaptureProtocol.Message.Header

/-!
# Frame limits

Every frame has a least and a greatest number of bytes.

* `FrameLimits` — the two numbers; `validate` accepts them exactly when they are `Usable`;
* `bodyCapacity` — the bytes of a payload that fit one message of one frame.
-/

namespace CaptureProtocol

/-- The least and the greatest size of a frame, in bytes. -/
structure FrameLimits where
  /-- Shorter frames are padded to this size. -/
  min : Nat := 64
  /-- No frame is longer. -/
  max : Nat := 1500
deriving DecidableEq, Inhabited, Repr

namespace FrameLimits

/-- The greatest frame size on links that take jumbo frames. -/
def jumboMax : Nat := 9000

/-- The limits are in order and leave room for both headers and one byte. -/
def Usable (limits : FrameLimits) : Prop :=
  limits.min ≤ limits.max ∧ FrameHeader.size + MessageHeader.size < limits.max

instance (limits : FrameLimits) : Decidable limits.Usable := inferInstanceAs (Decidable (_ ∧ _))

/-- Refuses limits that cannot be used. -/
def validate (limits : FrameLimits) : Except LinkError Unit :=
  if limits.Usable then .ok () else .error (.unusableLimits limits.min limits.max)

theorem validate_eq_ok_iff (limits : FrameLimits) : limits.validate = .ok () ↔ limits.Usable := by
  unfold validate
  split <;> simp_all

/-- The bytes of a payload that fit one message of one frame. -/
def bodyCapacity (limits : FrameLimits) : Nat :=
  Nat.min (limits.max - FrameHeader.size - MessageHeader.size) 65535

end FrameLimits

end CaptureProtocol
