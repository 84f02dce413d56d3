import CaptureProtocol.Packet

/-!
# Status boards

A board keeps the last report of every capture module and of every interface of a known module.

* `InterfaceRecord`, `DeviceRecord` — the last reports, in the order in which their senders first reported;
* `StatusBoard.process` — takes a status packet; reports of interfaces count only once their module has reported;
* `summary` — one line for each module.
-/

namespace CaptureProtocol

/-- The last report of an interface. -/
structure InterfaceRecord where
  interfaceId : UInt32
  timestamp : UInt64
  status : InterfaceStatus
deriving DecidableEq, Inhabited, Repr

/-- The last report of a capture module, with those of its interfaces. -/
structure DeviceRecord where
  deviceId : UInt16
  timestamp : UInt64
  status : ModuleStatus
  /-- The interfaces, in the order of their first reports. -/
  interfaces : List InterfaceRecord
deriving DecidableEq, Inhabited, Repr

namespace DeviceRecord

/-- The record of an interface. -/
def interface? (device : DeviceRecord) (interfaceId : UInt32) : Option InterfaceRecord :=
  device.interfaces.find? (·.interfaceId == interfaceId)

/-- Puts the report of an interface in its place, or at the end when it is the first. -/
def report (device : DeviceRecord) (record : InterfaceRecord) : DeviceRecord :=
  if (device.interface? record.interfaceId).isSome then
    { device with interfaces := device.interfaces.map fun old =>
        if old.interfaceId = record.interfaceId then record else old }
  else { device with interfaces := device.interfaces ++ [record] }

/-- One line about a module. -/
def summary (device : DeviceRecord) : String :=
  s!"Id: {device.deviceId.toNat}, Name: {device.status.description}, Interfaces: {device.interfaces.length}"

end DeviceRecord

/-- The last reports of all capture modules. -/
structure StatusBoard where
  /-- The modules, in the order of their first reports. -/
  devices : List DeviceRecord := []
deriving DecidableEq, Inhabited, Repr

namespace StatusBoard

/-- The record of a module. -/
def device? (board : StatusBoard) (deviceId : UInt16) : Option DeviceRecord :=
  board.devices.find? (·.deviceId == deviceId)

/-- Changes the record of a module. -/
def modify (board : StatusBoard) (deviceId : UInt16) (change : DeviceRecord → DeviceRecord) : StatusBoard :=
  ⟨board.devices.map fun device => if device.deviceId = deviceId then change device else device⟩

/-- Takes the report of a module. -/
def reportModule (board : StatusBoard) (deviceId : UInt16) (timestamp : UInt64) (status : ModuleStatus) :
    StatusBoard :=
  if (board.device? deviceId).isSome then
    board.modify deviceId fun device => { device with timestamp, status }
  else ⟨board.devices ++ [⟨deviceId, timestamp, status, []⟩]⟩

/-- Takes a packet; refused when it reports nothing, or an interface of a module that has not reported. -/
def process (board : StatusBoard) (packet : Packet) : StatusBoard × Bool :=
  match packet.payload with
  | .captureModuleStatus status => (board.reportModule packet.deviceId packet.timestamp status, true)
  | .interfaceStatus status =>
    if (board.device? packet.deviceId).isSome then
      (board.modify packet.deviceId (·.report ⟨status.interfaceId, packet.timestamp, status⟩), true)
    else (board, false)
  | _ => (board, false)

/-- One line for each module. -/
def summary (board : StatusBoard) : List String := board.devices.map DeviceRecord.summary

/-- Forgets everything. -/
def clear (_ : StatusBoard) : StatusBoard := {}

end StatusBoard

end CaptureProtocol
