import CaptureProtocol.Capture.Stream
import CaptureProtocol.Total

/-!
# Interfaces of a capture module

An interface stands for one bus and owns streams.

* `BusInterface` — the interface, with the changes that wait for the end of an update;
* `changeId`, `changeKind`, `stage`, `commit` — as for streams: the type is applied first;
* `statusReport` — the report about the interface and its streams.
-/

namespace CaptureProtocol

/-- Changes of an interface that wait for the end of an update. -/
structure InterfaceUpdate where
  /-- The new identifier. -/
  id : Option UInt32 := none
  kind : Option PayloadType := none
deriving DecidableEq, Inhabited, Repr

/-- An interface of a capture module. -/
structure BusInterface where
  id : UInt32
  /-- The kind, as its data payload type. -/
  kind : PayloadType
  /-- The bus connection. -/
  linkStatus : LinkStatus := .up
  /-- The handles of its streams, in the order in which they were added. -/
  streams : List Nat := []
  /-- What waits for the end of an update, while one is under way. -/
  staged : Option InterfaceUpdate := none
deriving DecidableEq, Inhabited, Repr

namespace BusInterface

variable {T : Type}

/-- Applies a new identifier: it must be free. -/
def moveToId (resources : LinkResources T) (interface : BusInterface) (id : UInt32) :
    LinkResources T × BusInterface × Bool :=
  match resources.interfaceIds.replace interface.id id with
  | .error _ => (resources, interface, false)
  | .ok interfaceIds => ({ resources with interfaceIds }, { interface with id }, true)

/-- Applies a new kind: it must be a data type. -/
def moveToKind (interface : BusInterface) (kind : PayloadType) : BusInterface × Bool :=
  if kind.isData then ({ interface with kind }, true) else (interface, false)

/-- Starts an update, unless one is under way. -/
def stage (interface : BusInterface) : BusInterface :=
  { interface with staged := some (interface.staged.getD {}) }

/-- Changes the identifier, at the end of the update if one is under way. -/
def changeId (resources : LinkResources T) (interface : BusInterface) (id : UInt32) :
    LinkResources T × BusInterface × Bool :=
  match interface.staged with
  | some update => (resources, { interface with staged := some { update with id := some id } }, true)
  | none => moveToId resources interface id

/-- Changes the kind, at the end of the update if one is under way. -/
def changeKind (interface : BusInterface) (kind : PayloadType) : BusInterface × Bool :=
  match interface.staged with
  | some update => ({ interface with staged := some { update with kind := some kind } }, true)
  | none => moveToKind interface kind

/-- Ends an update; the answer says whether everything staged was applied. -/
def commit (resources : LinkResources T) (interface : BusInterface) :
    LinkResources T × BusInterface × Bool :=
  match interface.staged with
  | none => (resources, interface, true)
  | some update =>
    let interface := { interface with staged := none }
    let (interface, typeApplied) := match update.kind with
      | some kind => moveToKind interface kind
      | none => (interface, true)
    let (resources, interface, idApplied) := match update.id with
      | some id => moveToId resources interface id
      | none => (resources, interface, true)
    (resources, interface, typeApplied && idApplied)

/-- A count within 32 bits. -/
def cappedCount (count : Nat) : UInt32 := UInt32.ofNat (Nat.min count 4294967295)

/-- The report about the interface and its streams. -/
def statusReport (interface : BusInterface) (streams : List CaptureStream) : InterfaceStatus :=
  { interfaceId := interface.id
    sentTotal := cappedCount (total CaptureStream.packetsSent streams)
    sentDropped := cappedCount (total CaptureStream.packetsDropped streams)
    interfaceType := interface.kind.toRaw
    linkStatus := interface.linkStatus
    streamIds := streams.map CaptureStream.id }

end BusInterface

end CaptureProtocol
