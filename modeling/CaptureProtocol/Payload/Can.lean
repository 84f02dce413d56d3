import CaptureProtocol.Reader

/-!
# CAN and CAN-FD frames

A bus frame is 16 header bytes followed by its data.  CAN frames hold at most 8 data bytes, CAN-FD frames at
most 64.

* `CanFrame` — the frame; its identifier field holds 29 identifier bits, the remote and the extended bit;
* `arbitrationId`, `isExtended`, `isRemote`, `withExtended` — the parts of the identifier field;
* `dataLengthCode` — the code under which the bus knows a data length;
* `write`, `read` — the layout; `write_length` gives its size.
-/

namespace CaptureProtocol

/-- A frame captured from a CAN or CAN-FD bus. -/
structure CanFrame where
  /-- Error and state flags. -/
  flags : UInt16 := 0
  /-- The identifier with the remote and extended bits. -/
  id : UInt32 := 0
  /-- The checksum as read from the bus. -/
  crc : UInt32 := 0
  /-- The bit at which an error occurred. -/
  errorPosition : UInt16 := 0
  data : Bytes := []
deriving DecidableEq, Inhabited, Repr

namespace CanFrame

/-- The most data bytes of a CAN frame. -/
def classicLimit : Nat := 8

/-- The most data bytes of a CAN-FD frame. -/
def flexibleLimit : Nat := 64

/-- The number of header bytes. -/
def headerSize : Nat := 16

/-- The identifier bits of the identifier field. -/
def idMask : UInt32 := 0x1FFFFFFF

/-- The bit of remote requests. -/
def remoteBit : UInt32 := 0x40000000

/-- The bit of extended frames. -/
def extendedBit : UInt32 := 0x80000000

/-- A data frame with an identifier, cut to 29 bits. -/
def ofIdentifier (identifier : UInt32) (data : Bytes) : CanFrame := { id := identifier &&& idMask, data }

/-- The identifier without the remote and extended bits. -/
def arbitrationId (frame : CanFrame) : UInt32 := frame.id &&& idMask

/-- Whether the frame has an extended identifier. -/
def isExtended (frame : CanFrame) : Bool := frame.id &&& extendedBit != 0

/-- Whether the frame is a remote request. -/
def isRemote (frame : CanFrame) : Bool := frame.id &&& remoteBit != 0

/-- Marks the frame as extended or not. -/
def withExtended (frame : CanFrame) (extended : Bool) : CanFrame :=
  { frame with id := if extended then frame.id ||| extendedBit else frame.id &&& ~~~extendedBit }

/-- The code of a data length: the length up to 8, then one code for each step of the bus. -/
def dataLengthCode (length : Nat) : UInt8 :=
  if length ≤ 8 then UInt8.ofNat length
  else if length ≤ 12 then 9
  else if length ≤ 16 then 10
  else if length ≤ 20 then 11
  else if length ≤ 24 then 12
  else if length ≤ 32 then 13
  else if length ≤ 48 then 14
  else 15

/-- The bytes of a frame; the data length is written by its low eight bits. -/
def write (frame : CanFrame) : Bytes :=
  Bytes.ofUInt16 frame.flags ++ Bytes.ofUInt16 0 ++ Bytes.ofUInt32 frame.id ++ Bytes.ofUInt32 frame.crc ++
    Bytes.ofUInt16 frame.errorPosition ++
    (dataLengthCode frame.data.length :: UInt8.ofNat frame.data.length :: frame.data)

@[simp] theorem write_length (frame : CanFrame) : frame.write.length = headerSize + frame.data.length := by
  simp [write, headerSize]
  omega

/-- Reads a frame of at most `limit` data bytes, which must end where its data ends.  Only the data length
counts, not its code. -/
def read (limit : Nat) : Reader CanFrame := do
  let flags ← Reader.u16
  Reader.skip 2
  let id ← Reader.u32
  let crc ← Reader.u32
  let errorPosition ← Reader.u16
  Reader.skip 1
  let length ← Reader.u8
  guard (length.toNat ≤ limit)
  let data ← Reader.take length.toNat
  Reader.finish
  return { flags, id, crc, errorPosition, data }

end CanFrame

end CaptureProtocol
