/-!
# Kinds of messages and payloads

A frame names the kind of its messages by one byte, a message the type of its payload by another.  The same
payload byte means different payloads under different message kinds.

* `MessageType`, `PayloadType` — the kinds, with their transmitted bytes;
* `MessageType.toRaw_ofRaw` — a byte is never changed by reading and writing it;
* `PayloadType.messageType?` — the message kind that carries a payload type;
* `PayloadType.ofRaw_toRaw` — under that kind, the byte of a payload type is read back as the type.
-/

namespace CaptureProtocol

/-- The kind of the messages in a frame. -/
inductive MessageType where
  | data
  | control
  /-- Status of a capture module or of one of its interfaces. -/
  | status
  /-- Vendor-defined messages. -/
  | vendor
  /-- Any other byte. -/
  | unknown (raw : UInt8)
deriving DecidableEq, Inhabited, Repr

namespace MessageType

/-- The transmitted byte. -/
def toRaw : MessageType → UInt8
  | data => 0x01
  | control => 0x02
  | status => 0x03
  | vendor => 0xFF
  | unknown raw => raw

/-- The kind that a transmitted byte names. -/
def ofRaw (raw : UInt8) : MessageType :=
  if raw = 0x01 then data
  else if raw = 0x02 then control
  else if raw = 0x03 then status
  else if raw = 0xFF then vendor
  else unknown raw

/-- The name of a kind. -/
def name : MessageType → String
  | data => "Data"
  | control => "Control"
  | status => "Status"
  | vendor => "Vendor"
  | unknown raw => "Unknown(" ++ toString raw.toNat ++ ")"

@[simp] theorem toRaw_ofRaw (raw : UInt8) : (ofRaw raw).toRaw = raw := by
  unfold ofRaw
  repeat' split
  all_goals simp_all [toRaw]

end MessageType

/-- The type of a payload. -/
inductive PayloadType where
  /-- The reserved byte 0. -/
  | invalid
  | can
  | canFd
  | analog
  | captureModuleStatus
  | interfaceStatus
  /-- Any other byte. -/
  | other (raw : UInt8)
deriving DecidableEq, Inhabited, Repr

namespace PayloadType

/-- The transmitted byte. -/
def toRaw : PayloadType → UInt8
  | invalid => 0x00
  | can => 0x01
  | canFd => 0x02
  | analog => 0x07
  | captureModuleStatus => 0x01
  | interfaceStatus => 0x02
  | other raw => raw

/-- The payload type that a byte names under a message kind. -/
def ofRaw (kind : MessageType) (raw : UInt8) : PayloadType :=
  if raw = 0x00 then invalid
  else match kind with
    | .data =>
      if raw = 0x01 then can else if raw = 0x02 then canFd else if raw = 0x07 then analog else other raw
    | .status =>
      if raw = 0x01 then captureModuleStatus else if raw = 0x02 then interfaceStatus else other raw
    | _ => other raw

/-- The message kind that has to carry payloads of a type. -/
def messageType? : PayloadType → Option MessageType
  | can | canFd | analog => some .data
  | captureModuleStatus | interfaceStatus => some .status
  | invalid | other _ => none

/-- Whether payloads of a type are bus data, which streams and interfaces may carry. -/
def isData : PayloadType → Bool
  | can | canFd | analog => true
  | _ => false

/-- The name of a payload type. -/
def name : PayloadType → String
  | invalid => "Invalid"
  | can => "Can"
  | canFd => "CanFd"
  | analog => "Analog"
  | captureModuleStatus => "CaptureModuleStatus"
  | interfaceStatus => "InterfaceStatus"
  | other raw => "Other(" ++ toString raw.toNat ++ ")"

/-- A type with a message kind is read back from its byte under that kind. -/
theorem ofRaw_toRaw {type : PayloadType} {kind : MessageType} (h : type.messageType? = some kind) :
    ofRaw kind type.toRaw = type := by
  cases type <;> simp [messageType?] at h <;> subst h <;> rfl

/-- Data types are those that the data kind carries. -/
theorem isData_iff (type : PayloadType) : type.isData = true ↔ type.messageType? = some .data := by
  cases type <;> simp [isData, messageType?]

end PayloadType

end CaptureProtocol
