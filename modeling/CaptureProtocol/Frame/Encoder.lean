import CaptureProtocol.Frame.Layout

/-!
# Encoders

An encoder turns packets into numbered frames of one stream of one device.  The packets' own device and stream
are not looked at.

* `Encoder` — the stream, the payload type it is bound to, and the number of the next frame;
* `refusal?` — why a packet may not be sent through an encoder;
* `encode` — all frames of a list of packets, or the refusal of the first packet that may not be sent; the numbers
  of the frames laid out for the packets before it are used up.
-/

namespace CaptureProtocol

/-- Turns packets into the frames of one stream. -/
structure Encoder where
  /-- The slot that holds the encoder, as named in errors. -/
  slot : Nat
  deviceId : UInt16
  streamId : UInt8
  /-- The only payload type that may be sent, if there is one. -/
  payloadType : Option PayloadType := none
  /-- The number of the next frame. -/
  sequence : UInt16 := 0
deriving DecidableEq, Inhabited, Repr

namespace Encoder

/-- A fresh encoder outside of any rack, in the slot of its stream. -/
def ofStream (deviceId : UInt16) (streamId : UInt8) (payloadType : Option PayloadType) : Encoder :=
  { slot := streamId.toNat, deviceId, streamId, payloadType }

/-- Why a packet may not be sent: its type is not the encoder's, or its payload is not valid. -/
def refusal? (encoder : Encoder) (packet : Packet) : Option LinkError :=
  let got := packet.payloadType
  match encoder.payloadType with
  | some expected =>
    if expected ≠ got then some (.wrongPayloadType encoder.slot expected got)
    else if packet.payload.isValid then none
    else some (.unusablePayload got)
  | none => if packet.payload.isValid then none else some (.unusablePayload got)

/-- Whether a packet may be sent. -/
def accepts (encoder : Encoder) (packet : Packet) : Bool := (encoder.refusal? packet).isNone

/-- The header of the frame that is `index` frames ahead. -/
def frameHeader (encoder : Encoder) (kind : MessageType) (index : Nat) : FrameHeader where
  version := protocolVersion
  deviceId := encoder.deviceId
  messageType := kind
  streamId := encoder.streamId
  sequence := encoder.sequence + UInt16.ofNat index

/-- The bytes of the frame that is `index` frames ahead, padded with zero bytes. -/
def writeFrame (encoder : Encoder) (limits : FrameLimits) (index : Nat) (draft : FrameDraft) : Bytes :=
  (encoder.frameHeader draft.messageType index).write ++ draft.messages.flatMap Message.write ++
    List.replicate (limits.min - draft.size) 0

/-- The bytes of a list of frames, numbered from the encoder's next number. -/
def writeFrames (encoder : Encoder) (limits : FrameLimits) (drafts : List FrameDraft) : List Bytes :=
  drafts.mapIdx (encoder.writeFrame limits)

/-- The encoder after `count` more frames. -/
def advance (encoder : Encoder) (count : Nat) : Encoder :=
  { encoder with sequence := encoder.sequence + UInt16.ofNat count }

/-- The frames of a list of packets, or the first reason against them. -/
def encode (encoder : Encoder) (limits : FrameLimits) (packets : List Packet) :
    Encoder × Except LinkError (List Bytes) :=
  match limits.validate with
  | .error error => (encoder, .error error)
  | .ok () =>
    let (accepted, others) := packets.span encoder.accepts
    let drafts := layout limits accepted
    (encoder.advance drafts.length,
      match others.head?.bind encoder.refusal? with
      | some error => .error error
      | none => .ok (encoder.writeFrames limits drafts))

end Encoder

end CaptureProtocol
