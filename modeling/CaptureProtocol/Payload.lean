import CaptureProtocol.Message.Kind
import CaptureProtocol.Payload.Can
import CaptureProtocol.Payload.Analog
import CaptureProtocol.Payload.ModuleStatus
import CaptureProtocol.Payload.InterfaceStatus

/-!
# Payloads

A payload is one of five known contents, or bytes that were not understood.

* `Payload` — the contents; `payloadType` and `rawType` name them;
* `isValid` — whether a payload may be sent: lengths fit their fields, samples fit their format;
* `toBytes`, `parse` — the layouts; `toBytes_length` gives the number of bytes;
* `parse` never fails: bytes that do not have the layout of their type are kept as they are.
-/

namespace CaptureProtocol

/-- The content of a packet. -/
inductive Payload where
  | can (frame : CanFrame)
  | canFd (frame : CanFrame)
  | analog (block : AnalogBlock)
  | interfaceStatus (status : InterfaceStatus)
  | captureModuleStatus (status : ModuleStatus)
  /-- Bytes that were not understood, with the byte that named their type. -/
  | undefined (rawType : UInt8) (data : Bytes)
deriving DecidableEq, Inhabited, Repr

namespace Payload

/-- The type of a payload. -/
def payloadType : Payload → PayloadType
  | can _ => .can
  | canFd _ => .canFd
  | analog _ => .analog
  | interfaceStatus _ => .interfaceStatus
  | captureModuleStatus _ => .captureModuleStatus
  | undefined rawType _ => if rawType = 0 then .invalid else .other rawType

/-- The byte that names the type of a payload. -/
def rawType : Payload → UInt8
  | undefined rawType _ => rawType
  | payload => payload.payloadType.toRaw

/-- Whether a payload may be sent. -/
def isValid : Payload → Bool
  | can frame => frame.data.length ≤ CanFrame.classicLimit
  | canFd frame => frame.data.length ≤ CanFrame.flexibleLimit
  | analog block => block.samplesFit
  | interfaceStatus status => status.fits
  | captureModuleStatus status => status.fits
  | undefined .. => false

/-- The number of bytes of a payload. -/
def encodedLength : Payload → Nat
  | can frame | canFd frame => CanFrame.headerSize + frame.data.length
  | analog block => AnalogBlock.headerSize + block.samples.length * block.width.bytes
  | interfaceStatus status => status.encodedLength
  | captureModuleStatus status => status.encodedLength
  | undefined _ data => data.length

/-- The bytes of a payload. -/
def toBytes : Payload → Bytes
  | can frame | canFd frame => frame.write
  | analog block => block.write
  | interfaceStatus status => status.write
  | captureModuleStatus status => status.write
  | undefined _ data => data

@[simp] theorem toBytes_length (payload : Payload) : payload.toBytes.length = payload.encodedLength := by
  cases payload <;> simp [toBytes, encodedLength]

/-- Reads the layout of a payload type, if it has one. -/
def parseKnown? (type : PayloadType) (body : Bytes) : Option Payload :=
  match type with
  | .can => ((CanFrame.read CanFrame.classicLimit).parse body).map can
  | .canFd => ((CanFrame.read CanFrame.flexibleLimit).parse body).map canFd
  | .analog => (AnalogBlock.read.parse body).map analog
  | .captureModuleStatus => (ModuleStatus.read.parse body).map captureModuleStatus
  | .interfaceStatus => (InterfaceStatus.read.parse body).map interfaceStatus
  | .invalid | .other _ => none

/-- The payload of a body.  Bytes without the layout of their type are kept as they are. -/
def parse (kind : MessageType) (raw : UInt8) (body : Bytes) : Payload :=
  (parseKnown? (.ofRaw kind raw) body).getD (undefined raw body)

/-- Equality with floating-point fields compared as numbers. -/
def numericallyEqual : Payload → Payload → Bool
  | analog left, analog right => left.numericallyEqual right
  | left, right => left == right

end Payload

end CaptureProtocol
