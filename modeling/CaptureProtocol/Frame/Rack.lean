import CaptureProtocol.Frame.Encoder

/-!
# Racks of encoders

A rack holds a fixed number of slots, each empty or bound to a stream.  What happens in one slot is not seen in
another.

* `EncoderRack` — the slots; `encoder?` looks into one;
* `assign`, `retype`, `release`, `encode` — operations on one slot.
-/

namespace CaptureProtocol

/-- A fixed number of encoder slots. -/
structure EncoderRack where
  /-- The slots, each empty or bound to a stream. -/
  slots : List (Option Encoder)
deriving DecidableEq, Inhabited, Repr

namespace EncoderRack

/-- The number of streams that one device can have. -/
def streamCount : Nat := 256

/-- A rack of empty slots. -/
def empty (count : Nat) : EncoderRack := ⟨List.replicate count none⟩

/-- The number of slots. -/
def size (rack : EncoderRack) : Nat := rack.slots.length

/-- The encoder of a slot, if the slot exists and is bound. -/
def encoder? (rack : EncoderRack) (slot : Nat) : Option Encoder := rack.slots[slot]?.join

/-- Whether a slot is bound to a stream. -/
def isBound (rack : EncoderRack) (slot : Nat) : Bool := (rack.encoder? slot).isSome

/-- Replaces the content of a slot; a slot that does not exist stays so. -/
def put (rack : EncoderRack) (slot : Nat) (encoder : Option Encoder) : EncoderRack :=
  ⟨rack.slots.set slot encoder⟩

/-- Binds a slot to a stream.  Its frames are numbered from 0 again. -/
def assign (rack : EncoderRack) (slot : Nat) (deviceId : UInt16) (streamId : UInt8)
    (payloadType : Option PayloadType) : Except LinkError EncoderRack :=
  if slot < rack.size then .ok (rack.put slot (some { slot, deviceId, streamId, payloadType }))
  else .error (.noSuchSlot slot rack.size)

/-- The encoder of a slot, or why there is none. -/
def bound (rack : EncoderRack) (slot : Nat) : Except LinkError Encoder :=
  match rack.slots[slot]? with
  | none => .error (.noSuchSlot slot rack.size)
  | some none => .error (.slotUnbound slot)
  | some (some encoder) => .ok encoder

/-- Changes the payload type that a slot is bound to.  Its frames are numbered on. -/
def retype (rack : EncoderRack) (slot : Nat) (payloadType : Option PayloadType) :
    Except LinkError EncoderRack := do
  let encoder ← rack.bound slot
  return rack.put slot (some { encoder with payloadType })

/-- Empties a slot. -/
def release (rack : EncoderRack) (slot : Nat) : EncoderRack := rack.put slot none

/-- Encodes packets in a slot. -/
def encode (rack : EncoderRack) (slot : Nat) (limits : FrameLimits) (packets : List Packet) :
    EncoderRack × Except LinkError (List Bytes) :=
  match rack.bound slot with
  | .error error => (rack, .error error)
  | .ok encoder =>
    let (encoder, result) := encoder.encode limits packets
    (rack.put slot (some encoder), result)

end EncoderRack

end CaptureProtocol
