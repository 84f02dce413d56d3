import CaptureProtocol.Reader
import CaptureProtocol.Binary64

/-!
# Blocks of analog samples

A block is 17 header bytes followed by samples of two or four bytes.  The physical value of a sample is
`raw · scale + offset`.

* `SampleWidth` — the two transmitted sample formats;
* `AnalogBlock` — the block; `samplesFit` says whether every sample fits the format;
* `physicalValues` — the values that the samples stand for;
* `write`, `read` — the layout; `write_length` gives its size.
-/

namespace CaptureProtocol

/-- The format of transmitted samples. -/
inductive SampleWidth where
  /-- Two bytes per sample. -/
  | int16
  /-- Four bytes per sample. -/
  | int32
deriving DecidableEq, Inhabited, Repr

namespace SampleWidth

/-- The transmitted byte. -/
def toRaw : SampleWidth → UInt8
  | int16 => 0
  | int32 => 1

/-- The format that a byte names. -/
def ofRaw? (raw : UInt8) : Option SampleWidth :=
  if raw = 0 then some int16 else if raw = 1 then some int32 else none

@[simp] theorem ofRaw?_toRaw (width : SampleWidth) : ofRaw? width.toRaw = some width := by
  cases width <;> rfl

/-- The name of a format. -/
def name : SampleWidth → String
  | int16 => "Int16"
  | int32 => "Int32"

/-- The number of bytes of a sample. -/
def bytes : SampleWidth → Nat
  | int16 => 2
  | int32 => 4

/-- The least sample of a format. -/
def least : SampleWidth → Int
  | int16 => -32768
  | int32 => -2147483648

/-- The greatest sample of a format. -/
def greatest : SampleWidth → Int
  | int16 => 32767
  | int32 => 2147483647

/-- Whether a sample lies in the range of a format. -/
def holds (width : SampleWidth) (sample : Int32) : Bool :=
  width.least ≤ sample.toInt && sample.toInt ≤ width.greatest

/-- The bytes of a sample, cut to the format. -/
def writeSample : SampleWidth → Int32 → Bytes
  | int16, sample => Bytes.ofUInt16 sample.toUInt32.toUInt16
  | int32, sample => Bytes.ofUInt32 sample.toUInt32

@[simp] theorem writeSample_length (width : SampleWidth) (sample : Int32) :
    (width.writeSample sample).length = width.bytes := by
  cases width <;> simp [writeSample, bytes]

/-- The samples of a byte string, after those read before, latest first; none where a part of a sample is
left over. -/
def samplesAfter (width : SampleWidth) (read : List Int32) (bytes : Bytes) : Option (List Int32) :=
  match width, bytes with
  | _, [] => some read.reverse
  | int16, b1 :: b0 :: rest =>
    samplesAfter int16 ((UInt16.ofNat (Bytes.value [b1, b0])).toInt16.toInt32 :: read) rest
  | int32, b3 :: b2 :: b1 :: b0 :: rest =>
    samplesAfter int32 ((UInt32.ofNat (Bytes.value [b3, b2, b1, b0])).toInt32 :: read) rest
  | _, _ => none

/-- The samples that fill a byte string. -/
def samples? (width : SampleWidth) (bytes : Bytes) : Option (List Int32) := width.samplesAfter [] bytes

end SampleWidth

/-- A block of analog samples. -/
structure AnalogBlock where
  /-- Error and state flags. -/
  flags : UInt16 := 0
  width : SampleWidth := .int16
  /-- The unit code of the physical values. -/
  unit : UInt8 := 0
  /-- The time between samples, in seconds. -/
  sampleInterval : Binary32 := .zero
  /-- The physical value of the raw sample 0. -/
  offset : Binary32 := .zero
  /-- The physical value of one raw step. -/
  scale : Binary32 := .zero
  samples : List Int32 := []
deriving DecidableEq, Inhabited, Repr

namespace AnalogBlock

/-- The number of header bytes. -/
def headerSize : Nat := 17

/-- Whether every sample lies in the range of the block's format. -/
def samplesFit (block : AnalogBlock) : Bool := block.samples.all block.width.holds

/-- The physical values of the samples. -/
def physicalValues (block : AnalogBlock) : List Binary64 :=
  let scale := Binary64.widen block.scale
  let offset := Binary64.widen block.offset
  block.samples.map fun raw => Binary64.ofInt32 raw * scale + offset

/-- The bytes of a block. -/
def write (block : AnalogBlock) : Bytes :=
  Bytes.ofUInt16 block.flags ++ (0 :: block.width.toRaw :: block.unit :: Bytes.ofUInt32 block.sampleInterval.bits) ++
    Bytes.ofUInt32 block.offset.bits ++ Bytes.ofUInt32 block.scale.bits ++
    block.samples.flatMap block.width.writeSample

@[simp] theorem write_length (block : AnalogBlock) :
    block.write.length = headerSize + block.samples.length * block.width.bytes := by
  have h : (block.samples.flatMap block.width.writeSample).length = block.samples.length * block.width.bytes := by
    induction block.samples with
    | nil => simp
    | cons sample rest ih => simp [ih, Nat.succ_mul, Nat.add_comm]
  simp [write, headerSize, h]
  omega

/-- Reads a block whose samples fill the rest of the string. -/
def read : Reader AnalogBlock := do
  let flags ← Reader.u16
  Reader.skip 1
  let width ← SampleWidth.ofRaw? (← Reader.u8)
  let unit ← Reader.u8
  let sampleInterval ← Reader.u32
  let offset ← Reader.u32
  let scale ← Reader.u32
  let samples ← width.samples? (← Reader.remaining)
  return { flags, width, unit, sampleInterval := ⟨sampleInterval⟩, offset := ⟨offset⟩, scale := ⟨scale⟩, samples }

/-- Equality with the floating-point fields compared as numbers. -/
def numericallyEqual (left right : AnalogBlock) : Bool :=
  left.flags == right.flags && left.width == right.width && left.unit == right.unit &&
    left.sampleInterval.numericallyEqual right.sampleInterval && left.offset.numericallyEqual right.offset &&
    left.scale.numericallyEqual right.scale && left.samples == right.samples

end AnalogBlock

end CaptureProtocol
