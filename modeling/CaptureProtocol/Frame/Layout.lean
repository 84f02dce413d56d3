import CaptureProtocol.Chunks
import CaptureProtocol.Packet
import CaptureProtocol.Frame.Limits

/-!
# Laying out packets in frames

Packets that fit share frames: a packet joins the frame before it when both hold one kind of messages and the
frame has room.  A packet that no frame can hold is cut into segments, each in a frame of its own.

* `Message` — a header with the bytes it announces;
* `segments` — the messages of a packet whose body is cut into chunks;
* `FrameDraft` — the messages of a frame; `FrameDraft.size` is its length before padding;
* `Layout` — finished drafts and the one that still takes packets; `Layout.place` adds a packet;
* `layout` — the drafts of a list of packets, in order.
-/

namespace CaptureProtocol

/-- A message header with the body it announces. -/
structure Message where
  header : MessageHeader
  body : Bytes
deriving DecidableEq, Inhabited, Repr

namespace Message

/-- The bytes of a message. -/
def write (message : Message) : Bytes := message.header.write ++ message.body

/-- The number of bytes of a message. -/
def size (message : Message) : Nat := MessageHeader.size + message.body.length

@[simp] theorem write_length (message : Message) : message.write.length = message.size := by
  simp [write, size]

/-- The message that carries `body`, a part of a packet's payload, at a position. -/
def ofPacket (packet : Packet) (position : Segmentation) (body : Bytes) : Message where
  header :=
    { timestamp := packet.timestamp
      interfaceId := packet.interfaceId
      flags := packet.flags.withSegmentation position
      payloadType := packet.payload.rawType
      payloadLength := UInt16.ofNat body.length }
  body

end Message

/-! ### Cutting a body -/

/-- The position of chunk `index` of `count`. -/
def segmentPosition (count index : Nat) : Segmentation :=
  if index = 0 then .first else if index + 1 = count then .last else .intermediary

/-- The messages of a packet whose body is cut into chunks of `capacity` bytes. -/
def segments (capacity : Nat) (packet : Packet) (body : Bytes) : List Message :=
  let parts := chunks capacity body
  let count := parts.length
  parts.mapIdx fun index part => .ofPacket packet (segmentPosition count index) part

/-! ### Frames under construction -/

/-- The messages of a frame. -/
structure FrameDraft where
  /-- The kind of all messages. -/
  messageType : MessageType
  /-- The messages, latest first. -/
  latest : List Message
  /-- The length of the frame before padding. -/
  size : Nat
deriving DecidableEq, Inhabited, Repr

namespace FrameDraft

/-- A frame with one message. -/
def single (kind : MessageType) (message : Message) : FrameDraft :=
  ⟨kind, [message], FrameHeader.size + message.size⟩

/-- A frame with one more message. -/
def add (draft : FrameDraft) (message : Message) : FrameDraft :=
  { draft with latest := message :: draft.latest, size := draft.size + message.size }

/-- Whether a message of a kind may join the frame. -/
def admits (limits : FrameLimits) (draft : FrameDraft) (kind : MessageType) (message : Message) : Bool :=
  draft.messageType == kind && draft.size + message.size ≤ limits.max

/-- The messages in order. -/
def messages (draft : FrameDraft) : List Message := draft.latest.reverse

end FrameDraft

/-- Frames laid out so far. -/
structure Layout where
  /-- The finished frames, latest first. -/
  closed : List FrameDraft := []
  /-- The frame that still takes messages. -/
  current : Option FrameDraft := none
deriving DecidableEq, Inhabited, Repr

namespace Layout

/-- Finishes the current frame. -/
def close (layout : Layout) : Layout := ⟨layout.current.toList ++ layout.closed, none⟩

/-- Adds one packet. -/
def place (limits : FrameLimits) (layout : Layout) (packet : Packet) : Layout :=
  let body := packet.payload.toBytes
  if body.length ≤ limits.bodyCapacity then
    let message := Message.ofPacket packet .unsegmented body
    match layout.current with
    | some draft =>
      if draft.admits limits packet.messageType message then { layout with current := some (draft.add message) }
      else { layout.close with current := some (.single packet.messageType message) }
    | none => { layout with current := some (.single packet.messageType message) }
  else
    let frames := (segments limits.bodyCapacity packet body).map (FrameDraft.single packet.messageType)
    ⟨frames.reverse ++ layout.close.closed, none⟩

/-- All frames in order. -/
def frames (layout : Layout) : List FrameDraft := layout.close.closed.reverse

end Layout

/-- The frames of a list of packets, in order. -/
def layout (limits : FrameLimits) (packets : List Packet) : List FrameDraft :=
  (packets.foldl (Layout.place limits) {}).frames

end CaptureProtocol
