import CaptureProtocol.Payload.Block

/-!
# Status of an interface

A capture module reports each of its interfaces by 34 header bytes, the identifiers of its streams and one
block of vendor data.

* `LinkStatus` — the state of the bus connection, with its transmitted byte;
* `InterfaceStatus` — the report; `fits` says whether its blocks fit their length fields;
* `write`, `read` — the layout; `write_length` gives its size.
-/

namespace CaptureProtocol

/-- The state of an interface's bus connection. -/
inductive LinkStatus where
  | down
  | up
  /-- Switched off. -/
  | disabled
  /-- Any other byte. -/
  | other (raw : UInt8)
deriving DecidableEq, Inhabited, Repr

namespace LinkStatus

/-- The transmitted byte. -/
def toRaw : LinkStatus → UInt8
  | down => 0
  | up => 1
  | disabled => 2
  | other raw => raw

/-- The state that a transmitted byte names. -/
def ofRaw (raw : UInt8) : LinkStatus :=
  if raw = 0 then down else if raw = 1 then up else if raw = 2 then disabled else other raw

/-- The name of a state. -/
def name : LinkStatus → String
  | down => "Down"
  | up => "Up"
  | disabled => "Disabled"
  | other raw => "Other(" ++ toString raw.toNat ++ ")"

@[simp] theorem toRaw_ofRaw (raw : UInt8) : (ofRaw raw).toRaw = raw := by
  unfold ofRaw
  repeat' split
  all_goals simp_all [toRaw]

end LinkStatus

/-- The status report of an interface. -/
structure InterfaceStatus where
  interfaceId : UInt32 := 0
  /-- Messages received from the bus. -/
  receivedTotal : UInt32 := 0
  /-- Messages sent. -/
  sentTotal : UInt32 := 0
  /-- Received messages that were dropped. -/
  receivedDropped : UInt32 := 0
  /-- Messages dropped before sending. -/
  sentDropped : UInt32 := 0
  /-- Errors seen. -/
  errorsTotal : UInt32 := 0
  /-- The kind of the interface, as the byte of its data payload type. -/
  interfaceType : UInt8 := 0
  /-- The bus connection. -/
  linkStatus : LinkStatus := .down
  featureSupport : UInt32 := 0
  streamIds : Bytes := []
  vendorData : Bytes := []
deriving DecidableEq, Inhabited, Repr

namespace InterfaceStatus

/-- The number of header bytes. -/
def headerSize : Nat := 34

/-- Whether the stream list and the vendor data fit their length fields. -/
def fits (status : InterfaceStatus) : Bool :=
  Bytes.fitsLengthField status.streamIds.length && Bytes.fitsLengthField status.vendorData.length

/-- The number of bytes of a report. -/
def encodedLength (status : InterfaceStatus) : Nat :=
  headerSize + Bytes.evenLength status.streamIds.length + 2 + status.vendorData.length

/-- The bytes of a report. -/
def write (status : InterfaceStatus) : Bytes :=
  Bytes.ofUInt32 status.interfaceId ++ Bytes.ofUInt32 status.receivedTotal ++ Bytes.ofUInt32 status.sentTotal ++
    Bytes.ofUInt32 status.receivedDropped ++ Bytes.ofUInt32 status.sentDropped ++
    Bytes.ofUInt32 status.errorsTotal ++ [status.interfaceType, status.linkStatus.toRaw] ++ Bytes.ofUInt16 0 ++
    Bytes.ofUInt32 status.featureSupport ++ Block.lengthField status.streamIds.length ++ status.streamIds ++
    Block.evenPadding status.streamIds.length ++ Block.writeData status.vendorData

@[simp] theorem write_length (status : InterfaceStatus) : status.write.length = status.encodedLength := by
  simp [write, encodedLength, headerSize, Block.lengthField, Bytes.evenLength]
  omega

/-- Reads a report that fills the string. -/
def read : Reader InterfaceStatus := do
  let interfaceId ← Reader.u32
  let receivedTotal ← Reader.u32
  let sentTotal ← Reader.u32
  let receivedDropped ← Reader.u32
  let sentDropped ← Reader.u32
  let errorsTotal ← Reader.u32
  let interfaceType ← Reader.u8
  let linkStatus ← Reader.u8
  Reader.skip 2
  let featureSupport ← Reader.u32
  let count ← Reader.u16
  let streamIds ← Reader.take count.toNat
  Reader.skip (count.toNat % 2)
  let vendorData ← Block.readData
  Reader.finish
  return { interfaceId, receivedTotal, sentTotal, receivedDropped, sentDropped, errorsTotal, interfaceType,
           linkStatus := .ofRaw linkStatus, featureSupport, streamIds, vendorData }

end InterfaceStatus

end CaptureProtocol
