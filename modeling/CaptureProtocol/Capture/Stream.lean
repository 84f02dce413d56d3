import CaptureProtocol.Capture.Resources
import CaptureProtocol.Signal.Inlet

/-!
# Streams of a capture module

A stream turns batches of a signal into frames.  Its identifier is also its encoder slot.

* `CaptureStream` — the stream, with its counters and the changes that wait for the end of an update;
* `send` — turns a batch into packets, encodes and sends them; `SendFailure`: why it fails;
* `changeId`, `changePayloadType` — at once, or staged while an update is under way;
* `stage`, `commit` — an update applies the last staged payload type and then the last staged identifier;
  what cannot be applied leaves the old value.
-/

namespace CaptureProtocol

/-- Changes of a stream that wait for the end of an update. -/
structure StreamUpdate where
  /-- The new identifier. -/
  id : Option UInt8 := none
  payloadType : Option PayloadType := none
deriving DecidableEq, Inhabited, Repr

/-- A stream of a capture module. -/
structure CaptureStream where
  /-- The handle of the interface that the stream was added to. -/
  owner : Nat
  /-- The identifier and encoder slot. -/
  id : UInt8
  inlet : SignalInlet
  /-- What waits for the end of an update, while one is under way. -/
  staged : Option StreamUpdate := none
  packetsSent : Nat := 0
  framesSent : Nat := 0
  /-- Packets that could not be encoded. -/
  packetsDropped : Nat := 0
deriving Inhabited, Repr

/-- Why a batch is not sent. -/
inductive SendFailure where
  /-- The encoder or the sender refuses it. -/
  | refused (error : LinkError)
  /-- The time of a packet overflows; the send breaks off before it has done anything. -/
  | overflow
deriving DecidableEq, Repr

namespace CaptureStream

variable {T : Type}

/-- The payload type. -/
def payloadType (stream : CaptureStream) : PayloadType := stream.inlet.payloadType

/-- A signal is connected, or the connected one has changed. -/
def connect (stream : CaptureStream) (shape : Option SignalShape) (axis : Option TimeAxis) : CaptureStream :=
  { stream with inlet := stream.inlet.connect shape axis }

/-- The signal is gone. -/
def disconnect (stream : CaptureStream) : CaptureStream := { stream with inlet := stream.inlet.disconnect }

/-- Applies a new identifier: it must be free, and the stream moves to its slot. -/
def moveToId (resources : LinkResources T) (stream : CaptureStream) (id : UInt8) :
    LinkResources T × CaptureStream × Bool :=
  if stream.id = id then (resources, stream, true)
  else match resources.streamIds.replace stream.id.toUInt32 id.toUInt32 with
    | .error _ => (resources, stream, false)
    | .ok streamIds =>
      match { resources with streamIds }.bindSlot id stream.payloadType with
      | .error _ =>
        -- the identifier that was just given back is taken again
        match streamIds.replace id.toUInt32 stream.id.toUInt32 with
        | .ok streamIds => ({ resources with streamIds }, stream, false)
        | .error _ => ({ resources with streamIds }, stream, false)
      | .ok resources =>
        ({ resources with encoders := resources.encoders.release stream.id.toNat }, { stream with id }, true)

/-- Applies a new payload type: it must be a data type, and the stream's slot must be bound. -/
def moveToPayloadType (resources : LinkResources T) (stream : CaptureStream) (payloadType : PayloadType) :
    LinkResources T × CaptureStream × Bool :=
  if payloadType.isData then
    match resources.encoders.retype stream.id.toNat (some payloadType) with
    | .error _ => (resources, stream, false)
    | .ok encoders =>
      ({ resources with encoders }, { stream with inlet := stream.inlet.retype payloadType }, true)
  else (resources, stream, false)

/-- Starts an update, unless one is under way. -/
def stage (stream : CaptureStream) : CaptureStream := { stream with staged := some (stream.staged.getD {}) }

/-- Changes the identifier, at the end of the update if one is under way. -/
def changeId (resources : LinkResources T) (stream : CaptureStream) (id : UInt8) :
    LinkResources T × CaptureStream × Bool :=
  match stream.staged with
  | some update => (resources, { stream with staged := some { update with id := some id } }, true)
  | none => moveToId resources stream id

/-- Changes the payload type, at the end of the update if one is under way. -/
def changePayloadType (resources : LinkResources T) (stream : CaptureStream) (payloadType : PayloadType) :
    LinkResources T × CaptureStream × Bool :=
  match stream.staged with
  | some update => (resources, { stream with staged := some { update with payloadType := some payloadType } }, true)
  | none => moveToPayloadType resources stream payloadType

/-- Applies a change if there is one. -/
def applyStaged {α : Type} (apply : LinkResources T → CaptureStream → α → LinkResources T × CaptureStream × Bool)
    (resources : LinkResources T) (stream : CaptureStream) : Option α → LinkResources T × CaptureStream × Bool
  | some value => apply resources stream value
  | none => (resources, stream, true)

/-- Ends an update; the answer says whether everything staged was applied. -/
def commit (resources : LinkResources T) (stream : CaptureStream) : LinkResources T × CaptureStream × Bool :=
  match stream.staged with
  | none => (resources, stream, true)
  | some update =>
    let (resources, stream, typeApplied) :=
      applyStaged moveToPayloadType resources { stream with staged := none } update.payloadType
    let (resources, stream, idApplied) := applyStaged moveToId resources stream update.id
    (resources, stream, typeApplied && idApplied)

/-- Sends a batch and answers the number of frames.  Packets that cannot be encoded are counted as dropped; where
a frame is refused, nothing is counted. -/
def send [FrameSender T] (resources : LinkResources T) (stream : CaptureStream) (interfaceId : UInt32)
    (batch : SignalBatch) : LinkResources T × CaptureStream × Except SendFailure Nat :=
  match stream.inlet.packets? interfaceId batch with
  | none => (resources, stream, .error .overflow)
  | some packets =>
    if packets.isEmpty then (resources, stream, .ok 0)
    else
      let (encoders, encoded) := resources.encoders.encode stream.id.toNat resources.limits packets
      let resources := { resources with encoders }
      match encoded with
      | .error error =>
        (resources, { stream with packetsDropped := stream.packetsDropped + packets.length }, .error (.refused error))
      | .ok frames =>
        match resources.sendFrames frames with
        | (resources, .error error) => (resources, stream, .error (.refused error))
        | (resources, .ok ()) =>
          (resources,
            { stream with
              packetsSent := stream.packetsSent + packets.length
              framesSent := stream.framesSent + frames.length },
            .ok frames.length)

end CaptureStream

end CaptureProtocol
