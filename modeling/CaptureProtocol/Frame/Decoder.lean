import CaptureProtocol.Frame.Pieces
import CaptureProtocol.Run

/-!
# Decoders

A decoder turns frames back into packets.  Whole payloads come out at once; the parts of a cut payload are held
per address until the last one arrives.  A part that does not carry the next frame number of its payload makes
the decoder forget the payload.  Frames that break the format never fail: they give packets that are not valid.

* `PendingPayload` — the parts of a payload that have arrived; `Decoder` — the pending payloads by address;
* `accept` — one piece of a frame; `decode` — one frame; `decodeAll` — frames in order;
* `expire` — forgets payloads that have been pending for the whole timeout.

Time is an argument: the number of milliseconds since some fixed moment.
-/

namespace CaptureProtocol

/-- A payload whose last part has not arrived. -/
structure PendingPayload where
  /-- The header of the frame with the first part. -/
  frame : FrameHeader
  /-- The header of the first part. -/
  header : MessageHeader
  /-- The bodies of the parts, latest first. -/
  latest : List Bytes
  /-- The number that the frame of the next part must carry. -/
  next : UInt16
  /-- When the first part arrived. -/
  since : Nat
deriving DecidableEq, Inhabited, Repr

/-- The packet of a message, addressed by its frame. -/
def packetOf (frame : FrameHeader) (header : MessageHeader) (payload : Payload) : Packet where
  version := frame.version
  messageType := frame.messageType
  deviceId := frame.deviceId
  interfaceId := header.interfaceId
  streamId := frame.streamId
  timestamp := header.timestamp
  flags := header.flags.withSegmentation .unsegmented
  payload

namespace PendingPayload

/-- A payload whose first part has arrived. -/
def start (now : Nat) (frame : FrameHeader) (message : Message) : PendingPayload where
  frame
  header := message.header
  latest := [message.body]
  next := frame.sequence + 1
  since := now

/-- A payload with one more part. -/
def append (pending : PendingPayload) (body : Bytes) : PendingPayload :=
  { pending with latest := body :: pending.latest, next := pending.next + 1 }

/-- The bytes of all parts. -/
def body (pending : PendingPayload) : Bytes := pending.latest.reverse.flatten

/-- The packet of all parts. -/
def packet (pending : PendingPayload) : Packet :=
  packetOf pending.frame pending.header
    (.parse pending.frame.messageType pending.header.payloadType pending.body)

end PendingPayload

/-- Turns frames into packets. -/
structure Decoder where
  /-- How long a payload may be pending, in milliseconds. -/
  timeout : Nat := 2000
  /-- The pending payloads, at most one for each address. -/
  pending : List (StreamKey × PendingPayload) := []
deriving DecidableEq, Inhabited, Repr

namespace Decoder

/-- The payload that is pending for an address. -/
def pending? (decoder : Decoder) (key : StreamKey) : Option PendingPayload := decoder.pending.lookup key

/-- Forgets what is pending for an address. -/
def forget (decoder : Decoder) (key : StreamKey) : Decoder :=
  { decoder with pending := decoder.pending.filter (·.1 != key) }

/-- Puts a payload in the place of what is pending for an address. -/
def hold (decoder : Decoder) (key : StreamKey) (pending : PendingPayload) : Decoder :=
  { decoder with pending := (key, pending) :: (decoder.forget key).pending }

/-- The number of pending payloads. -/
def pendingCount (decoder : Decoder) : Nat := decoder.pending.length

/-- Forgets everything that is pending. -/
def clear (decoder : Decoder) : Decoder := { decoder with pending := [] }

/-- Forgets the payloads that have been pending for the whole timeout, and counts them. -/
def expire (decoder : Decoder) (now : Nat) : Decoder × Nat :=
  let kept := decoder.pending.filter fun (_, pending) => now - pending.since < decoder.timeout
  ({ decoder with pending := kept }, decoder.pending.length - kept.length)

/-- The address of a message. -/
def keyOf (frame : FrameHeader) (header : MessageHeader) : StreamKey :=
  ⟨frame.deviceId, header.interfaceId, frame.streamId⟩

/-- Takes a part after the first.  The last part completes the payload. -/
def proceed (frame : FrameHeader) (message : Message) (isLast : Bool) (decoder : Decoder) :
    Decoder × List Packet :=
  let key := keyOf frame message.header
  match decoder.pending? key with
  | none => (decoder, [])
  | some pending =>
    if pending.next = frame.sequence then
      let pending := pending.append message.body
      if isLast then (decoder.forget key, [pending.packet]) else (decoder.hold key pending, [])
    else (decoder.forget key, [])

/-- Takes one piece of a frame. -/
def accept (now : Nat) (frame : FrameHeader) (decoder : Decoder) : Piece → Decoder × List Packet
  | .truncated message =>
    (decoder, [packetOf frame message.header (.undefined message.header.payloadType message.body)])
  | .whole message =>
    match message.header.flags.segmentation with
    | .unsegmented =>
      (decoder, [packetOf frame message.header
        (.parse frame.messageType message.header.payloadType message.body)])
    | .first => (decoder.hold (keyOf frame message.header) (.start now frame message), [])
    | .intermediary => decoder.proceed frame message false
    | .last => decoder.proceed frame message true

/-- Takes a frame: forgets what is stale, then gives the packets that the frame completes. -/
def decode (now : Nat) (decoder : Decoder) (bytes : Bytes) : Decoder × List Packet :=
  let decoder := (decoder.expire now).1
  match FrameHeader.read bytes with
  | none => (decoder, [])
  | some (frame, rest) => Run.collect (accept now frame) decoder (cut rest)

/-- Takes frames in order. -/
def decodeAll (now : Nat) (decoder : Decoder) (frames : List Bytes) : Decoder × List Packet :=
  Run.collect (decode now) decoder frames

end Decoder

end CaptureProtocol
