import CaptureProtocol.Config
import CaptureProtocol.Frame.Rack
import CaptureProtocol.Loopback

/-!
# What the streams of a capture module share

All interfaces and streams of one module draw on the same identifiers, encoder slots and sender.

* `LinkResources` — the shared parts; `LinkResources.create` sets them up with slot 0 bound to status frames;
* `sendFrames` — hands frames to the sender;
* `releaseStream` — gives a stream's slot and identifier back.
-/

namespace CaptureProtocol

/-- The slot of status frames. -/
def statusSlot : Nat := 0

/-- What the interfaces and streams of a capture module share. -/
structure LinkResources (T : Type) where
  /-- The module's device. -/
  deviceId : UInt16
  limits : FrameLimits
  /-- The encoder slots; the slot of a stream is its identifier. -/
  encoders : EncoderRack
  interfaceIds : IdPool
  streamIds : IdPool
  /-- Where frames go. -/
  sender : T
deriving Inhabited, Repr

namespace LinkResources

variable {T : Type}

/-- The shared parts of a new module. -/
def create (config : LinkConfig) (deviceId : UInt16) (sender : T) : LinkResources T where
  deviceId
  limits := config.frameLimits
  encoders := (EncoderRack.empty EncoderRack.streamCount).put statusSlot
    (some { slot := statusSlot, deviceId, streamId := 0 })
  interfaceIds := .ofInterfaces config.zeroRule
  streamIds := .ofStreams
  sender

/-- Hands frames to the sender until one is refused. -/
def sendFrames [FrameSender T] (resources : LinkResources T) (frames : List Bytes) :
    LinkResources T × Except LinkError Unit :=
  let (sender, result) := sendAll resources.sender frames
  ({ resources with sender }, result)

/-- Binds the slot of a stream to it. -/
def bindSlot (resources : LinkResources T) (id : UInt8) (payloadType : PayloadType) :
    Except LinkError (LinkResources T) := do
  let encoders ← resources.encoders.assign id.toNat resources.deviceId id (some payloadType)
  return { resources with encoders }

/-- Gives a stream's slot and identifier back. -/
def releaseStream (resources : LinkResources T) (id : UInt8) : LinkResources T :=
  { resources with
    encoders := resources.encoders.release id.toNat
    streamIds := (resources.streamIds.remove id.toUInt32).1 }

end LinkResources

end CaptureProtocol
