import CaptureProtocol.Capture.Module
import CaptureProtocol.Proofs.StreamChanges
import Mathlib

/-!
# The operations of a capture module

* `StreamOperation`, `InterfaceOperation`, `CaptureOperation` — the operations through the handle of a stream, through
  the handle of an interface, and of the module; `CaptureModule.perform` says what each of them does and whether it
  was accepted;
* `CaptureModule.Live` — a stream that was not removed; `CaptureModule.Permits` — the operations that go through the
  handles of interfaces and streams that were not removed;
* `CaptureModule.Reachable` — the modules that such operations lead to;
* `CaptureModule.held`, `interfaceHeld` — what the live streams and the listed interfaces hold.
-/

namespace CaptureProtocol

/-- An operation through the handle of a stream. -/
inductive StreamOperation where
  | connect (shape : Option SignalShape) (axis : Option TimeAxis)
  | disconnect
  | send (batch : SignalBatch)
  | stage
  | changeId (id : UInt8)
  | changePayloadType (payloadType : PayloadType)
  | commit

/-- An operation through the handle of an interface. -/
inductive InterfaceOperation where
  | setLinkStatus (status : LinkStatus)
  | addStream (payloadType : PayloadType) (id : Option UInt8)
  | removeStream (id : UInt8)
  | stage
  | changeId (id : UInt32)
  | changeKind (kind : PayloadType)
  | commit

/-- An operation of a module, or one through a handle. -/
inductive CaptureOperation (T : Type) where
  | updateDevice (change : ModuleIdentity → ModuleIdentity)
  | addInterface (kind : PayloadType) (id : Option UInt32)
  | removeInterface (id : UInt32)
  | sendReports (uptime : UInt64)
  | startReporting
  | stopReporting
  /-- One period of the periodic reports. -/
  | reportOnce (uptime : UInt64)
  | onInterface (handle : Nat) (operation : InterfaceOperation)
  | onStream (handle : Nat) (operation : StreamOperation)
  /-- Something happens where the frames go. -/
  | replaceSender (sender : T)

/-- Whether an operation ends an update. -/
def CaptureOperation.isCommit {T : Type} : CaptureOperation T → Bool
  | onInterface _ .commit | onStream _ .commit => true
  | _ => false

namespace CaptureModule

variable {T : Type}

/-! ### What an operation does -/

/-- What an operation through the handle of a stream does, and whether it was accepted: it answers neither an error nor
`false`. -/
def performStream [FrameSender T] (capture : CaptureModule T) (handle : Nat) :
    StreamOperation → CaptureModule T × Bool
  | .connect shape axis => (capture.modifyStream handle (·.connect shape axis), true)
  | .disconnect => (capture.modifyStream handle CaptureStream.disconnect, true)
  | .send batch =>
    let (capture, answer) := capture.send handle batch
    (capture, answer.any Except.toBool)
  | .stage => (capture.modifyStream handle CaptureStream.stage, true)
  | .changeId id =>
    let (capture, answer) := capture.updateStream handle fun resources stream => stream.changeId resources id
    (capture, answer.getD false)
  | .changePayloadType payloadType =>
    let (capture, answer) := capture.updateStream handle fun resources stream =>
      stream.changePayloadType resources payloadType
    (capture, answer.getD false)
  | .commit =>
    let (capture, answer) := capture.updateStream handle CaptureStream.commit
    (capture, answer.getD false)

/-- The module after an operation that may be refused, and whether it was accepted. -/
def orUnchanged (capture : CaptureModule T) : Except LinkError (CaptureModule T) → CaptureModule T × Bool
  | .ok after => (after, true)
  | .error _ => (capture, false)

/-- What an operation through the handle of an interface does, and whether it was accepted. -/
def performInterface (capture : CaptureModule T) (handle : Nat) : InterfaceOperation → CaptureModule T × Bool
  | .setLinkStatus linkStatus => (capture.modifyInterface handle ({ · with linkStatus }), true)
  | .addStream payloadType id => capture.orUnchanged ((capture.addStream handle payloadType id).map Prod.snd)
  | .removeStream id => capture.orUnchanged (capture.removeStream handle id)
  | .stage => (capture.modifyInterface handle BusInterface.stage, true)
  | .changeId id =>
    let (capture, answer) := capture.updateInterface handle fun resources interface => interface.changeId resources id
    (capture, answer.getD false)
  | .changeKind kind =>
    let (capture, answer) := capture.updateInterface handle fun resources interface =>
      (resources, interface.changeKind kind)
    (capture, answer.getD false)
  | .commit =>
    let (capture, answer) := capture.updateInterface handle BusInterface.commit
    (capture, answer.getD false)

/-- What an operation does, and whether it was accepted. -/
def perform [FrameSender T] (capture : CaptureModule T) : CaptureOperation T → CaptureModule T × Bool
  | .updateDevice change => (capture.updateDevice change, true)
  | .addInterface kind id => capture.orUnchanged ((capture.addInterface kind id).map Prod.snd)
  | .removeInterface id => capture.orUnchanged (capture.removeInterface id)
  | .sendReports uptime =>
    let (capture, answer) := capture.sendReports uptime
    (capture, answer.toBool)
  | .startReporting => (capture.startReporting, true)
  | .stopReporting => (capture.stopReporting, true)
  | .reportOnce uptime => (capture.reportOnce uptime, true)
  | .onInterface handle operation => capture.performInterface handle operation
  | .onStream handle operation => capture.performStream handle operation
  | .replaceSender sender => ({ capture with resources := { capture.resources with sender } }, true)

/-! ### What was not removed -/

/-- The handles of the streams of an interface. -/
def streamsAt (capture : CaptureModule T) (handle : Nat) : List Nat :=
  ((capture.interfaces[handle]?).map BusInterface.streams).getD []

/-- A stream that was not removed: it belongs to an interface of the module. -/
def Live (capture : CaptureModule T) (key : Nat) : Prop := ∃ handle ∈ capture.listed, key ∈ capture.streamsAt handle

instance (capture : CaptureModule T) (key : Nat) : Decidable (capture.Live key) :=
  inferInstanceAs (Decidable (∃ handle ∈ capture.listed, key ∈ capture.streamsAt handle))

/-- An operation goes through no handle, or through that of an interface or a stream that was not removed. -/
def Permits (capture : CaptureModule T) : CaptureOperation T → Prop
  | .onInterface handle _ => handle ∈ capture.listed
  | .onStream handle _ => capture.Live handle
  | _ => True

instance (capture : CaptureModule T) (operation : CaptureOperation T) : Decidable (capture.Permits operation) :=
  match operation with
  | .onInterface handle _ => inferInstanceAs (Decidable (handle ∈ capture.listed))
  | .onStream handle _ => inferInstanceAs (Decidable (capture.Live handle))
  | .updateDevice _ | .addInterface .. | .removeInterface _ | .sendReports _ | .startReporting | .stopReporting
  | .reportOnce _ | .replaceSender _ => inferInstanceAs (Decidable True)

/-- A module that was created and has gone through operations that were permitted. -/
inductive Reachable [FrameSender T] : CaptureModule T → Prop
  | create {config : LinkConfig} {device : ModuleIdentity} {sender : T} {capture : CaptureModule T}
      (hcreate : create config device sender = .ok capture) : Reachable capture
  | perform {capture : CaptureModule T} {operation : CaptureOperation T} (hreachable : Reachable capture)
      (hpermits : capture.Permits operation) : Reachable (capture.perform operation).1

/-- The interfaces of the module, in the order in which they were added. -/
def listedInterfaces (capture : CaptureModule T) : List BusInterface :=
  capture.listed.filterMap (capture.interfaces[·]?)

/-- The streams of all interfaces of the module. -/
def liveStreams (capture : CaptureModule T) : List CaptureStream :=
  capture.listedInterfaces.flatMap capture.streamsOf

/-- What a live stream holds. -/
def held (capture : CaptureModule T) (key : Nat) : Option StreamLabel :=
  if capture.Live key then (capture.streams[key]?).map CaptureStream.label else none

/-- The identifier that an interface of the module holds. -/
def interfaceHeld (capture : CaptureModule T) (handle : Nat) : Option UInt32 :=
  if handle ∈ capture.listed then (capture.interfaces[handle]?).map BusInterface.id else none

variable {capture : CaptureModule T} {handle key : Nat}

theorem held_eq_some {label : StreamLabel} : capture.held key = some label ↔
    capture.Live key ∧ ∃ stream, capture.streams[key]? = some stream ∧ stream.label = label := by
  rw [held]
  by_cases hlive : capture.Live key
  · rw [if_pos hlive, Option.map_eq_some_iff, and_iff_right hlive]
  · rw [if_neg hlive]
    exact iff_of_false nofun fun h => hlive h.1

theorem interfaceHeld_eq_some {id : UInt32} : capture.interfaceHeld handle = some id ↔
    handle ∈ capture.listed ∧ ∃ interface, capture.interfaces[handle]? = some interface ∧ interface.id = id := by
  rw [interfaceHeld]
  by_cases hlisted : handle ∈ capture.listed
  · rw [if_pos hlisted, Option.map_eq_some_iff, and_iff_right hlisted]
  · rw [if_neg hlisted]
    exact iff_of_false nofun fun h => hlisted h.1

end CaptureModule

end CaptureProtocol
