import CaptureProtocol.Payload
import CaptureProtocol.Proofs.Utf8
import Mathlib

/-!
# Payloads survive the wire

Each of the five layouts is read back from its own bytes.  Reading gives the payload in canonical form: status
texts have lost the NUL characters at their end, and a link state goes by its name where it has one.

* `Reader.bind_of_eq_some` — a composed reader goes on after its first part, so that a layout is read field by
  field in the order in which it was written;
* `CanFrame.read_write`, `AnalogBlock.read_write`, `ModuleStatus.read_write`, `InterfaceStatus.read_write` — the
  layouts;
* `Payload.canonical` — what reading makes of a payload;
* `Payload.parse_toBytes` — every valid payload is read back under the message kind that its type needs.
-/

namespace CaptureProtocol

/-! ### Reading a layout field by field -/

namespace Reader

/-- A composed reader goes on after its first part. -/
theorem bind_of_eq_some {α β : Type} {reader : Reader α} {bytes rest : Bytes} {value : α}
    (next : α → Reader β) (h : reader bytes = some (value, rest)) : (reader >>= next) bytes = next value rest := by
  rw [bind_apply, h, Option.bind_some]

theorem u8_cons (byte : UInt8) (rest : Bytes) : u8 (byte :: rest) = some (byte, rest) := rfl

theorem skip_append (front rest : Bytes) : skip front.length (front ++ rest) = some (⟨⟩, rest) := by
  rw [skip, bind_apply, take_append, Option.bind_some, pure_apply]

theorem skip_cons (byte : UInt8) (rest : Bytes) : skip 1 (byte :: rest) = some (⟨⟩, rest) :=
  skip_append [byte] rest

theorem skip_u16 (word : UInt16) (rest : Bytes) : skip 2 (Bytes.ofUInt16 word ++ rest) = some (⟨⟩, rest) := by
  have h := skip_append (Bytes.ofUInt16 word) rest
  rwa [Bytes.ofUInt16_length] at h

theorem take_all (bytes : Bytes) : take bytes.length bytes = some (bytes, []) := by
  have h := take_append bytes []
  rwa [List.append_nil] at h

theorem remaining_apply (bytes : Bytes) : remaining bytes = some (bytes, []) := rfl

theorem finish_nil : finish [] = some (⟨⟩, []) := rfl

theorem guard_apply {condition : Prop} [Decidable condition] (h : condition) (bytes : Bytes) :
    (guard condition : Reader Unit) bytes = some ((), bytes) := by
  rw [guard, if_pos h]
  rfl

theorem lift_apply {α : Type} {found : Option α} {value : α} (h : found = some value) (bytes : Bytes) :
    (liftM found : Reader α) bytes = some (value, bytes) := by
  subst h
  rfl

end Reader

open Reader

/-! ### The layouts -/

/-- A bus frame within its limit is read back. -/
theorem CanFrame.read_write {limit : Nat} (frame : CanFrame) (hlimit : limit < 256)
    (hdata : frame.data.length ≤ limit) : CanFrame.read limit frame.write = some (frame, []) := by
  have hcount : (UInt8.ofNat frame.data.length).toNat = frame.data.length :=
    Utf8.toNat_ofNat_of_lt (by omega)
  simp only [CanFrame.read, CanFrame.write, List.append_assoc]
  rw [bind_of_eq_some _ (u16_append ..), bind_of_eq_some _ (skip_u16 ..), bind_of_eq_some _ (u32_append ..),
    bind_of_eq_some _ (u32_append ..), bind_of_eq_some _ (u16_append ..), bind_of_eq_some _ (skip_cons ..),
    bind_of_eq_some _ (u8_cons ..), hcount, bind_of_eq_some _ (guard_apply hdata _), bind_of_eq_some _ (take_all _),
    bind_of_eq_some _ finish_nil, pure_apply]

namespace SampleWidth

/-- Two bytes give back a sample that lies in their range. -/
theorem narrow_widen (sample : Int32) (hlow : -32768 ≤ sample.toInt) (hhigh : sample.toInt ≤ 32767) :
    sample.toUInt32.toUInt16.toInt16.toInt32 = sample := by
  have hword : sample.toUInt32.toUInt16.toInt16 = sample.toInt16 := by
    apply Int16.toBitVec_inj.mp
    rw [UInt16.toBitVec_toInt16, UInt32.toBitVec_toUInt16, Int32.toBitVec_toInt16, Int32.toBitVec_toUInt32,
      BitVec.signExtend_eq_setWidth_of_le _ (by decide)]
  apply Int32.toInt_inj.mp
  rw [Int16.toInt_toInt32, hword, Int32.toInt_toInt16, Int.bmod_eq_of_le] <;> omega

/-- A sample that its format holds is read back. -/
theorem samplesAfter_writeSample (width : SampleWidth) (sample : Int32) (rest : Bytes) (read : List Int32)
    (hholds : width.holds sample = true) :
    width.samplesAfter read (width.writeSample sample ++ rest) = width.samplesAfter (sample :: read) rest := by
  cases width with
  | int16 =>
    rw [holds, Bool.and_eq_true] at hholds
    have hlow : -32768 ≤ sample.toInt := of_decide_eq_true hholds.1
    have hhigh : sample.toInt ≤ 32767 := of_decide_eq_true hholds.2
    have hlt := sample.toUInt32.toUInt16.toNat_lt
    have hword := Bytes.value_bigEndian 2 sample.toUInt32.toUInt16.toNat
    rw [show Bytes.wordCount 2 = 65536 from rfl, Nat.mod_eq_of_lt (by omega)] at hword
    simp only [writeSample, Bytes.ofUInt16]
    simp only [Bytes.bigEndian, List.nil_append, List.cons_append] at hword ⊢
    rw [samplesAfter, hword, UInt16.ofNat_toNat, narrow_widen _ hlow hhigh]
  | int32 =>
    have hlt := sample.toUInt32.toNat_lt
    have hword := Bytes.value_bigEndian 4 sample.toUInt32.toNat
    rw [show Bytes.wordCount 4 = 4294967296 from rfl, Nat.mod_eq_of_lt (by omega)] at hword
    simp only [writeSample, Bytes.ofUInt32]
    simp only [Bytes.bigEndian, List.nil_append, List.cons_append] at hword ⊢
    rw [samplesAfter, hword, UInt32.ofNat_toNat, Int32.toInt32_toUInt32]

theorem samplesAfter_flatMap (width : SampleWidth) (samples read : List Int32)
    (hholds : samples.all width.holds = true) :
    width.samplesAfter read (samples.flatMap width.writeSample) = some (read.reverse ++ samples) := by
  induction samples generalizing read with
  | nil => cases width <;> simp [samplesAfter]
  | cons sample samples ih =>
    rw [List.all_cons, Bool.and_eq_true] at hholds
    rw [List.flatMap_cons, samplesAfter_writeSample _ _ _ _ hholds.1, ih _ hholds.2, List.reverse_cons,
      List.append_assoc, List.singleton_append]

end SampleWidth

/-- A block whose samples fit their format is read back. -/
theorem AnalogBlock.read_write (block : AnalogBlock) (hfit : block.samplesFit = true) :
    AnalogBlock.read block.write = some (block, []) := by
  have hsamples : block.width.samples? (block.samples.flatMap block.width.writeSample) = some block.samples :=
    block.width.samplesAfter_flatMap block.samples [] hfit
  simp only [AnalogBlock.read, AnalogBlock.write, List.append_assoc, List.cons_append]
  rw [bind_of_eq_some _ (u16_append ..), bind_of_eq_some _ (skip_cons ..), bind_of_eq_some _ (u8_cons ..),
    bind_of_eq_some _ (lift_apply (SampleWidth.ofRaw?_toRaw block.width) _), bind_of_eq_some _ (u8_cons ..),
    bind_of_eq_some _ (u32_append ..), bind_of_eq_some _ (u32_append ..), bind_of_eq_some _ (u32_append ..),
    bind_of_eq_some _ (remaining_apply _), bind_of_eq_some _ (lift_apply hsamples _), pure_apply]

/-- A module status whose texts have lost the NUL characters at their end. -/
def ModuleStatus.canonical (status : ModuleStatus) : ModuleStatus :=
  { status with
    description := Block.trimNul status.description
    serialNumber := Block.trimNul status.serialNumber
    hardwareVersion := Block.trimNul status.hardwareVersion
    softwareVersion := Block.trimNul status.softwareVersion }

/-- A report of a module whose blocks fit is read back in canonical form. -/
theorem ModuleStatus.read_write (status : ModuleStatus) (hfits : status.fits = true) :
    ModuleStatus.read status.write = some (status.canonical, []) := by
  simp only [ModuleStatus.fits, ModuleStatus.texts, List.all_cons, List.all_nil, Bool.and_true,
    Bool.and_eq_true] at hfits
  obtain ⟨⟨hdescription, hserial, hhardware, hsoftware⟩, hvendor⟩ := hfits
  have hdata : Block.readData (Block.writeData status.vendorData) = some (status.vendorData, []) := by
    have h := Block.readData_append status.vendorData [] hvendor
    rwa [List.append_nil] at h
  simp only [ModuleStatus.read, ModuleStatus.write, List.append_assoc, List.cons_append, List.nil_append]
  rw [bind_of_eq_some _ (u64_append ..), bind_of_eq_some _ (u64_append ..), bind_of_eq_some _ (u32_append ..),
    bind_of_eq_some _ (u16_append ..), bind_of_eq_some _ (u8_cons ..), bind_of_eq_some _ (u8_cons ..),
    bind_of_eq_some _ (skip_cons ..), bind_of_eq_some _ (u8_cons ..),
    bind_of_eq_some _ (Block.readText_append _ _ hdescription),
    bind_of_eq_some _ (Block.readText_append _ _ hserial),
    bind_of_eq_some _ (Block.readText_append _ _ hhardware),
    bind_of_eq_some _ (Block.readText_append _ _ hsoftware), bind_of_eq_some _ hdata, bind_of_eq_some _ finish_nil,
    pure_apply]
  rfl

/-- An interface status whose link state goes by its name where it has one. -/
def InterfaceStatus.canonical (status : InterfaceStatus) : InterfaceStatus :=
  { status with linkStatus := .ofRaw status.linkStatus.toRaw }

/-- A report of an interface whose blocks fit is read back in canonical form. -/
theorem InterfaceStatus.read_write (status : InterfaceStatus) (hfits : status.fits = true) :
    InterfaceStatus.read status.write = some (status.canonical, []) := by
  rw [InterfaceStatus.fits, Bool.and_eq_true] at hfits
  have hdata : Block.readData (Block.writeData status.vendorData) = some (status.vendorData, []) := by
    have h := Block.readData_append status.vendorData [] hfits.2
    rwa [List.append_nil] at h
  have hcount : (UInt16.ofNat status.streamIds.length).toNat = status.streamIds.length := by
    have hle : status.streamIds.length ≤ 65535 := of_decide_eq_true hfits.1
    rw [UInt16.toNat_ofNat', Nat.mod_eq_of_lt (by omega)]
  have hpadding := skip_append (Block.evenPadding status.streamIds.length) (Block.writeData status.vendorData)
  rw [Block.evenPadding_length] at hpadding
  simp only [InterfaceStatus.read, InterfaceStatus.write, Block.lengthField, List.append_assoc, List.cons_append,
    List.nil_append]
  rw [bind_of_eq_some _ (u32_append ..), bind_of_eq_some _ (u32_append ..), bind_of_eq_some _ (u32_append ..),
    bind_of_eq_some _ (u32_append ..), bind_of_eq_some _ (u32_append ..), bind_of_eq_some _ (u32_append ..),
    bind_of_eq_some _ (u8_cons ..), bind_of_eq_some _ (u8_cons ..), bind_of_eq_some _ (skip_u16 ..),
    bind_of_eq_some _ (u32_append ..), bind_of_eq_some _ (u16_append ..), hcount,
    bind_of_eq_some _ (take_append ..), bind_of_eq_some _ hpadding, bind_of_eq_some _ hdata,
    bind_of_eq_some _ finish_nil, pure_apply]
  rfl

/-! ### Payloads -/

namespace Payload

/-- What reading makes of a payload. -/
def canonical : Payload → Payload
  | interfaceStatus status => interfaceStatus status.canonical
  | captureModuleStatus status => captureModuleStatus status.canonical
  | payload => payload

/-- A payload type with a message kind has a byte other than 0. -/
theorem toRaw_ne_zero {type : PayloadType} {kind : MessageType} (h : type.messageType? = some kind) :
    type.toRaw ≠ 0 := by
  cases type <;> first | decide | cases h

/-- The type byte of a valid payload is that of its type. -/
theorem rawType_of_isValid {payload : Payload} (h : payload.isValid = true) :
    payload.rawType = payload.payloadType.toRaw := by
  cases payload with
  | undefined => cases h
  | _ => rfl

theorem rawType_ne_zero {payload : Payload} (h : payload.isValid = true) : payload.rawType ≠ 0 := by
  rw [rawType_of_isValid h]
  cases payload with
  | undefined => cases h
  | _ => exact toRaw_ne_zero (by rfl)

/-- Every valid payload is read back, in canonical form, under the message kind that its type needs. -/
theorem parse_toBytes {payload : Payload} {kind : MessageType} (hvalid : payload.isValid = true)
    (hkind : payload.payloadType.messageType? = some kind) :
    parse kind payload.rawType payload.toBytes = payload.canonical := by
  rw [parse, rawType_of_isValid hvalid, PayloadType.ofRaw_toRaw hkind]
  cases payload with
  | can frame =>
    have h := CanFrame.read_write frame (by decide) (of_decide_eq_true hvalid)
    simp only [parseKnown?, payloadType, toBytes, Reader.parse, h]
    rfl
  | canFd frame =>
    have h := CanFrame.read_write frame (by decide) (of_decide_eq_true hvalid)
    simp only [parseKnown?, payloadType, toBytes, Reader.parse, h]
    rfl
  | analog block =>
    simp only [parseKnown?, payloadType, toBytes, Reader.parse, block.read_write hvalid]
    rfl
  | interfaceStatus status =>
    simp only [parseKnown?, payloadType, toBytes, Reader.parse, status.read_write hvalid]
    rfl
  | captureModuleStatus status =>
    simp only [parseKnown?, payloadType, toBytes, Reader.parse, status.read_write hvalid]
    rfl
  | undefined => cases hvalid

end Payload

end CaptureProtocol
