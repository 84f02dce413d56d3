import CaptureProtocol.Reader
import CaptureProtocol.Message.Kind
import CaptureProtocol.Message.Flags

/-!
# Frame and message headers

A frame is one frame header followed by messages; a message is one message header followed by its body.

* `FrameHeader` — eight bytes: version, device, message kind, stream and frame sequence number;
* `MessageHeader` — sixteen bytes: time, interface, flags, payload byte and body length;
* `write` / `read` for both, with `write_length`;
* `MessageHeader.read_write_append` — a message header that was written in front of any rest is read back;
* `MessageHeader.read_eq_some` — a message header that was read is what stands in front.
-/

namespace CaptureProtocol

/-- The protocol version that is written and accepted. -/
def protocolVersion : UInt8 := 1

/-- The header of a frame. -/
structure FrameHeader where
  version : UInt8
  /-- The capture module that sent the frame. -/
  deviceId : UInt16
  /-- The kind of all messages of the frame. -/
  messageType : MessageType
  /-- The stream that the frame belongs to. -/
  streamId : UInt8
  /-- Counts the frames of one stream, wrapping around. -/
  sequence : UInt16
deriving DecidableEq, Inhabited, Repr

namespace FrameHeader

/-- The number of bytes of a frame header. -/
def size : Nat := 8

/-- The bytes of a frame header. -/
def write (header : FrameHeader) : Bytes :=
  header.version :: 0 :: Bytes.ofUInt16 header.deviceId ++
    (header.messageType.toRaw :: header.streamId :: Bytes.ofUInt16 header.sequence)

@[simp] theorem write_length (header : FrameHeader) : header.write.length = size := by
  simp [write, size]

/-- Reads a frame header; the second byte is reserved. -/
def read : Reader FrameHeader := do
  let version ← Reader.u8
  Reader.skip 1
  let deviceId ← Reader.u16
  let messageType ← Reader.u8
  let streamId ← Reader.u8
  let sequence ← Reader.u16
  return { version, deviceId, messageType := .ofRaw messageType, streamId, sequence }

end FrameHeader

/-- The header of a message. -/
structure MessageHeader where
  /-- When the message's content was captured, in nanoseconds. -/
  timestamp : UInt64
  /-- The interface that the content belongs to. -/
  interfaceId : UInt32
  /-- The flags, with the position of the body. -/
  flags : MessageFlags
  payloadType : UInt8
  /-- The number of bytes of the body. -/
  payloadLength : UInt16
deriving DecidableEq, Inhabited, Repr

namespace MessageHeader

/-- The number of bytes of a message header. -/
def size : Nat := 16

/-- The bytes of a message header. -/
def write (header : MessageHeader) : Bytes :=
  Bytes.ofUInt64 header.timestamp ++ Bytes.ofUInt32 header.interfaceId ++
    (header.flags.bits :: header.payloadType :: Bytes.ofUInt16 header.payloadLength)

@[simp] theorem write_length (header : MessageHeader) : header.write.length = size := by
  simp [write, size]

/-- Reads a message header. -/
def read : Reader MessageHeader := do
  let timestamp ← Reader.u64
  let interfaceId ← Reader.u32
  let flags ← Reader.u8
  let payloadType ← Reader.u8
  let payloadLength ← Reader.u16
  return { timestamp, interfaceId, flags := ⟨flags⟩, payloadType, payloadLength }

/-- A header written in front of any rest is read back. -/
@[simp] theorem read_write_append (header : MessageHeader) (rest : Bytes) :
    read (header.write ++ rest) = some (header, rest) := by
  simp [read, write, Reader.bind_apply, Reader.map_apply, Reader.u8]

/-- A header that was read is what stands in front. -/
theorem read_eq_some {bytes rest : Bytes} {header : MessageHeader} (h : read bytes = some (header, rest)) :
    bytes = header.write ++ rest := by
  obtain ⟨timestamp, rest1, h1, h⟩ := Reader.bind_eq_some.mp h
  obtain ⟨interfaceId, rest2, h2, h⟩ := Reader.bind_eq_some.mp h
  obtain ⟨flags, rest3, h3, h⟩ := Reader.bind_eq_some.mp h
  obtain ⟨payloadType, rest4, h4, h⟩ := Reader.bind_eq_some.mp h
  obtain ⟨payloadLength, rest5, h5, h⟩ := Reader.bind_eq_some.mp h
  cases Reader.pure_eq_some.mp h
  rw [Reader.u64_eq_some h1, Reader.u32_eq_some h2, Reader.u8_eq_some h3, Reader.u8_eq_some h4,
    Reader.u16_eq_some h5]
  simp [write]

end MessageHeader

end CaptureProtocol
