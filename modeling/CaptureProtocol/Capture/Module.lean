import CaptureProtocol.Capture.Interface

/-!
# Capture modules

A capture module owns interfaces, which own streams, and reports on itself and on them.

Interfaces and streams are named by handles, the positions in which they were created.  A handle stays usable
when its interface or stream has been removed: it then still draws on the shared parts of the module.

* `ModuleIdentity`, `CaptureModule` — the module; `listed` are the handles of its interfaces;
* `addInterface`, `removeInterface`, `addStream`, `removeStream` — its interfaces and streams;
* `updateInterface`, `updateStream` — an operation through a handle;
* `reports`, `sendReports` — reports;
* `takeFrames`, `closeQueue`, `reportToReceiver` — the receiving end of a module that sends into a loopback queue.
-/

namespace CaptureProtocol

/-- What a capture module says about itself. -/
structure ModuleIdentity where
  deviceId : UInt16
  description : String := ""
  serialNumber : String := ""
  hardwareVersion : String := ""
  softwareVersion : String := ""
  vendorData : Bytes := []
deriving DecidableEq, Inhabited, Repr

/-- A capture module. -/
structure CaptureModule (T : Type) where
  config : LinkConfig
  /-- What the interfaces and streams share. -/
  resources : LinkResources T
  /-- What the module says about itself. -/
  device : ModuleIdentity
  /-- The handles of the module's interfaces, in the order in which they were added. -/
  listed : List Nat := []
  /-- All interfaces ever created, by handle. -/
  interfaces : List BusInterface := []
  /-- All streams ever created, by handle. -/
  streams : List CaptureStream := []
  /-- Whether reports are sent periodically. -/
  reporting : Bool := false
deriving Inhabited, Repr

namespace CaptureModule

variable {T : Type}

/-- A new module; refused where the configuration cannot work. -/
def create (config : LinkConfig) (device : ModuleIdentity) (sender : T) : Except LinkError (CaptureModule T) := do
  config.validate
  return { config, resources := .create config device.deviceId sender, device }

/-- Changes what the module says about itself; the device stays the same. -/
def updateDevice (capture : CaptureModule T) (change : ModuleIdentity → ModuleIdentity) : CaptureModule T :=
  { capture with device := { change capture.device with deviceId := capture.device.deviceId } }

/-! ### Looking up -/

/-- The handle of the listed interface with an identifier. -/
def findInterface (capture : CaptureModule T) (id : UInt32) : Option Nat :=
  capture.listed.find? fun handle => (capture.interfaces[handle]?).any (·.id == id)

/-- The streams of an interface. -/
def streamsOf (capture : CaptureModule T) (interface : BusInterface) : List CaptureStream :=
  interface.streams.filterMap (capture.streams[·]?)

/-- The handle of the stream of an interface with an identifier. -/
def findStream (capture : CaptureModule T) (interface : BusInterface) (id : UInt8) : Option Nat :=
  interface.streams.find? fun handle => (capture.streams[handle]?).any (·.id == id)

/-- The identifier of the interface that a stream was added to. -/
def interfaceIdOf (capture : CaptureModule T) (stream : CaptureStream) : UInt32 :=
  ((capture.interfaces[stream.owner]?).map BusInterface.id).getD 0

/-! ### Operations through handles -/

/-- An operation of an interface on itself and the shared parts. -/
def updateInterface {α : Type} (capture : CaptureModule T) (handle : Nat)
    (operation : LinkResources T → BusInterface → LinkResources T × BusInterface × α) :
    CaptureModule T × Option α :=
  match capture.interfaces[handle]? with
  | none => (capture, none)
  | some interface =>
    let (resources, interface, answer) := operation capture.resources interface
    ({ capture with resources, interfaces := capture.interfaces.set handle interface }, some answer)

/-- An operation of a stream on itself and the shared parts. -/
def updateStream {α : Type} (capture : CaptureModule T) (handle : Nat)
    (operation : LinkResources T → CaptureStream → LinkResources T × CaptureStream × α) :
    CaptureModule T × Option α :=
  match capture.streams[handle]? with
  | none => (capture, none)
  | some stream =>
    let (resources, stream, answer) := operation capture.resources stream
    ({ capture with resources, streams := capture.streams.set handle stream }, some answer)

/-- A change of an interface that leaves the shared parts alone. -/
def modifyInterface (capture : CaptureModule T) (handle : Nat) (change : BusInterface → BusInterface) :
    CaptureModule T :=
  { capture with interfaces := capture.interfaces.modify handle change }

/-- A change of a stream that leaves the shared parts alone. -/
def modifyStream (capture : CaptureModule T) (handle : Nat) (change : CaptureStream → CaptureStream) :
    CaptureModule T :=
  { capture with streams := capture.streams.modify handle change }

/-- Sends a batch through a stream. -/
def send [FrameSender T] (capture : CaptureModule T) (handle : Nat) (batch : SignalBatch) :
    CaptureModule T × Option (Except SendFailure Nat) :=
  capture.updateStream handle fun resources stream =>
    stream.send resources (capture.interfaceIdOf stream) batch

/-! ### Interfaces -/

/-- Adds an interface with an identifier of its own, or with the next free one; answers its handle. -/
def addInterface (capture : CaptureModule T) (kind : PayloadType) (id : Option UInt32) :
    Except LinkError (Nat × CaptureModule T) := do
  if !kind.isData then throw (.unusablePayload kind)
  let (id, interfaceIds) ← match id with
    | none => capture.resources.interfaceIds.allocate
    | some id =>
      match capture.resources.interfaceIds.add id with
      | (interfaceIds, true) => .ok (id, interfaceIds)
      | (_, false) => .error (.idTaken id)
  let handle := capture.interfaces.length
  return (handle,
    { capture with
      resources := { capture.resources with interfaceIds }
      interfaces := capture.interfaces ++ [{ id, kind }]
      listed := capture.listed ++ [handle] })

/-- Gives back the slots and identifiers of streams. -/
def releaseAll (resources : LinkResources T) (streams : List CaptureStream) : LinkResources T :=
  streams.foldl (fun resources stream => resources.releaseStream stream.id) resources

/-- Removes the interface with an identifier, together with its streams. -/
def removeInterface (capture : CaptureModule T) (id : UInt32) : Except LinkError (CaptureModule T) :=
  match capture.findInterface id with
  | none => .error (.noSuchInterface id)
  | some handle =>
    match capture.interfaces[handle]? with
    | none => .error (.noSuchInterface id)
    | some interface =>
      let resources := releaseAll capture.resources (capture.streamsOf interface)
      .ok { capture with
        resources := { resources with interfaceIds := (resources.interfaceIds.remove id).1 }
        interfaces := capture.interfaces.set handle { interface with streams := [] }
        listed := capture.listed.erase handle }

/-! ### Streams -/

/-- Adds a stream with an identifier of its own, or with the next free one, to an interface; answers its
handle. -/
def addStream (capture : CaptureModule T) (owner : Nat) (payloadType : PayloadType) (id : Option UInt8) :
    Except LinkError (Nat × CaptureModule T) := do
  if !payloadType.isData then throw (.unusablePayload payloadType)
  let (id, streamIds) ← match id with
    | none => (capture.resources.streamIds.allocate).map fun (id, ids) => (id.toUInt8, ids)
    | some id =>
      match capture.resources.streamIds.add id.toUInt32 with
      | (streamIds, true) => .ok (id, streamIds)
      | (_, false) => .error (.idTaken id.toUInt32)
  let resources ← { capture.resources with streamIds }.bindSlot id payloadType
  let handle := capture.streams.length
  return (handle,
    { capture with
      resources
      streams := capture.streams ++ [{ owner, id, inlet := { payloadType } }]
      interfaces := capture.interfaces.modify owner fun interface =>
        { interface with streams := interface.streams ++ [handle] } })

/-- Removes the stream with an identifier from an interface. -/
def removeStream (capture : CaptureModule T) (owner : Nat) (id : UInt8) : Except LinkError (CaptureModule T) :=
  match (capture.interfaces[owner]?).bind (capture.findStream · id) with
  | none => .error (.noSuchStream id)
  | some handle =>
    .ok { capture with
      resources := capture.resources.releaseStream id
      interfaces := capture.interfaces.modify owner fun interface =>
        { interface with streams := interface.streams.erase handle } }

/-! ### Reports -/

/-- The reports about the module and its interfaces. -/
def reports (capture : CaptureModule T) (uptime : UInt64) : List Packet :=
  let device := capture.device
  .ofPayload 0 uptime (.captureModuleStatus
    { uptime
      description := device.description
      serialNumber := device.serialNumber
      hardwareVersion := device.hardwareVersion
      softwareVersion := device.softwareVersion
      vendorData := device.vendorData }) ::
  (capture.listed.filterMap (capture.interfaces[·]?)).map fun interface =>
    let report := interface.statusReport (capture.streamsOf interface)
    .ofPayload report.interfaceId uptime (.interfaceStatus report)

/-- Sends the reports and answers the number of frames. -/
def sendReports [FrameSender T] (capture : CaptureModule T) (uptime : UInt64) :
    CaptureModule T × Except LinkError Nat :=
  let (encoders, encoded) :=
    capture.resources.encoders.encode statusSlot capture.resources.limits (capture.reports uptime)
  let resources := { capture.resources with encoders }
  match encoded with
  | .error error => ({ capture with resources }, .error error)
  | .ok frames =>
    let (resources, sent) := resources.sendFrames frames
    ({ capture with resources }, sent.map fun () => frames.length)

/-- Starts the periodic reports. -/
def startReporting (capture : CaptureModule T) : CaptureModule T := { capture with reporting := true }

/-- Ends the periodic reports. -/
def stopReporting (capture : CaptureModule T) : CaptureModule T := { capture with reporting := false }

/-- One period: sends the reports; a refusal is not the end of the periodic reports. -/
def reportOnce [FrameSender T] (capture : CaptureModule T) (uptime : UInt64) : CaptureModule T :=
  if capture.reporting then (capture.sendReports uptime).1 else capture

/-! ### Modules with a loopback queue -/

/-- Takes all frames that wait, earliest first. -/
def takeFrames (capture : CaptureModule LoopbackQueue) : List Bytes × CaptureModule LoopbackQueue :=
  let (frames, sender) := capture.resources.sender.receiveAll
  (frames, { capture with resources := { capture.resources with sender } })

/-- Closes the receiving end of the queue. -/
def closeQueue (capture : CaptureModule LoopbackQueue) : CaptureModule LoopbackQueue :=
  { capture with
    resources := { capture.resources with sender := capture.resources.sender.closeReceiver } }

/-- A receiver starts or ends waiting for a frame. -/
def awaitFrame (capture : CaptureModule LoopbackQueue) (receiverWaits : Bool) : CaptureModule LoopbackQueue :=
  { capture with
    resources := { capture.resources with sender := { capture.resources.sender with receiverWaits } } }

/-- One period while a receiver waits for a frame; there is nothing to wait for where frames wait already. -/
def reportToReceiver (capture : CaptureModule LoopbackQueue) (uptime : UInt64) : CaptureModule LoopbackQueue :=
  if capture.resources.sender.latest.isEmpty then ((capture.awaitFrame true).reportOnce uptime).awaitFrame false
  else capture

end CaptureModule

end CaptureProtocol
