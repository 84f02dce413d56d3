import CaptureProtocol.Payload.Block

/-!
# Status of a capture module

A capture module reports 26 header bytes, four text blocks and one block of vendor data.

* `ModuleStatus` — the report; `texts` lists its four texts in the order of the layout;
* `fits` — whether every block fits its length field;
* `write`, `read` — the layout; `write_length` gives its size.
-/

namespace CaptureProtocol

/-- The status report of a capture module. -/
structure ModuleStatus where
  /-- Time since the module started, in nanoseconds. -/
  uptime : UInt64 := 0
  /-- The identity of the clock that the module follows. -/
  grandmasterIdentity : UInt64 := 0
  grandmasterClockQuality : UInt32 := 0
  utcOffset : UInt16 := 0
  /-- Where the time comes from. -/
  timeSource : UInt8 := 0
  domainNumber : UInt8 := 0
  timeFlags : UInt8 := 0
  description : String := ""
  serialNumber : String := ""
  hardwareVersion : String := ""
  softwareVersion : String := ""
  vendorData : Bytes := []
deriving DecidableEq, Inhabited, Repr

namespace ModuleStatus

/-- The number of header bytes. -/
def headerSize : Nat := 26

/-- The four texts in the order of the layout. -/
def texts (status : ModuleStatus) : List String :=
  [status.description, status.serialNumber, status.hardwareVersion, status.softwareVersion]

/-- Whether every block fits its length field. -/
def fits (status : ModuleStatus) : Bool :=
  status.texts.all (fun text => Bytes.fitsLengthField (Block.paddedLength text)) &&
    Bytes.fitsLengthField status.vendorData.length

/-- The number of bytes of a report. -/
def encodedLength (status : ModuleStatus) : Nat :=
  headerSize + Block.textLength status.description + Block.textLength status.serialNumber +
    Block.textLength status.hardwareVersion + Block.textLength status.softwareVersion + 2 +
    status.vendorData.length

/-- The bytes of a report. -/
def write (status : ModuleStatus) : Bytes :=
  Bytes.ofUInt64 status.uptime ++ Bytes.ofUInt64 status.grandmasterIdentity ++
    Bytes.ofUInt32 status.grandmasterClockQuality ++ Bytes.ofUInt16 status.utcOffset ++
    [status.timeSource, status.domainNumber, 0, status.timeFlags] ++
    Block.writeText status.description ++ Block.writeText status.serialNumber ++
    Block.writeText status.hardwareVersion ++ Block.writeText status.softwareVersion ++
    Block.writeData status.vendorData

@[simp] theorem write_length (status : ModuleStatus) : status.write.length = status.encodedLength := by
  simp [write, encodedLength, headerSize]
  omega

/-- Reads a report that fills the string. -/
def read : Reader ModuleStatus := do
  let uptime ← Reader.u64
  let grandmasterIdentity ← Reader.u64
  let grandmasterClockQuality ← Reader.u32
  let utcOffset ← Reader.u16
  let timeSource ← Reader.u8
  let domainNumber ← Reader.u8
  Reader.skip 1
  let timeFlags ← Reader.u8
  let description ← Block.readText
  let serialNumber ← Block.readText
  let hardwareVersion ← Block.readText
  let softwareVersion ← Block.readText
  let vendorData ← Block.readData
  Reader.finish
  return { uptime, grandmasterIdentity, grandmasterClockQuality, utcOffset, timeSource, domainNumber, timeFlags,
           description, serialNumber, hardwareVersion, softwareVersion, vendorData }

end ModuleStatus

end CaptureProtocol
