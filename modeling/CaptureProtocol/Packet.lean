import CaptureProtocol.Message.Header
import CaptureProtocol.Payload

/-!
# Packets

A packet is one payload with its address and time, free of how it was cut into messages.

* `StreamKey` — the address: device, interface and stream;
* `Packet` — the packet; `Packet.ofPayload` gives it the message kind that its payload needs;
* `isValid` — version, message kind and payload agree with the protocol.
-/

namespace CaptureProtocol

/-- The address of a stream of packets. -/
structure StreamKey where
  /-- The capture module. -/
  deviceId : UInt16
  interfaceId : UInt32
  streamId : UInt8
deriving DecidableEq, Inhabited, Repr

namespace StreamKey

/-- The address as text. -/
def render (key : StreamKey) : String :=
  toString key.deviceId.toNat ++ "/" ++ toString key.interfaceId.toNat ++ "/" ++ toString key.streamId.toNat

/-- The order of addresses: device, then interface, then stream. -/
def le (left right : StreamKey) : Bool :=
  if left.deviceId != right.deviceId then left.deviceId < right.deviceId
  else if left.interfaceId != right.interfaceId then left.interfaceId < right.interfaceId
  else left.streamId ≤ right.streamId

end StreamKey

/-- A payload with its address and time. -/
structure Packet where
  version : UInt8
  /-- The kind of message that carries the packet. -/
  messageType : MessageType
  /-- The capture module. -/
  deviceId : UInt16
  interfaceId : UInt32
  streamId : UInt8
  /-- When the content was captured, in nanoseconds. -/
  timestamp : UInt64
  /-- The flags; the position bits have no meaning here. -/
  flags : MessageFlags
  payload : Payload
deriving DecidableEq, Inhabited, Repr

namespace Packet

/-- A packet for a payload.  The device and the stream are filled in when it is sent. -/
def ofPayload (interfaceId : UInt32) (timestamp : UInt64) (payload : Payload) : Packet where
  version := protocolVersion
  messageType := payload.payloadType.messageType?.getD .data
  deviceId := 0
  interfaceId
  streamId := 0
  timestamp
  flags := .none
  payload

/-- The address of a packet. -/
def key (packet : Packet) : StreamKey := ⟨packet.deviceId, packet.interfaceId, packet.streamId⟩

/-- The type of a packet's payload. -/
def payloadType (packet : Packet) : PayloadType := packet.payload.payloadType

/-- Whether version, message kind and payload agree with the protocol. -/
def isValid (packet : Packet) : Bool :=
  packet.version == protocolVersion && packet.payloadType.messageType? == some packet.messageType &&
    packet.payload.isValid

/-- A valid packet is a data or a status packet. -/
theorem messageType_of_isValid {packet : Packet} (h : packet.isValid = true) :
    packet.messageType = .data ∨ packet.messageType = .status := by
  simp only [isValid, Bool.and_eq_true, beq_iff_eq] at h
  have hkind := h.1.2
  cases htype : packet.payloadType <;> simp [htype, PayloadType.messageType?] at hkind <;> simp [← hkind]

end Packet

end CaptureProtocol
