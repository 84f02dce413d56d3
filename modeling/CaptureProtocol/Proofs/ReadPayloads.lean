import CaptureProtocol.Proofs.PayloadCodec
import CaptureProtocol.Proofs.LossyText
import Mathlib

/-!
# Payloads that were read

Whatever body a payload was read from, it keeps the limits that sending asks for, with one exception: reading takes a
text of any length, and a replaced byte grows, so a text can be too long to be written again.

* `CanFrame.read_eq_some`, `AnalogBlock.read_eq_some`, `InterfaceStatus.read_eq_some`, `ModuleStatus.read_eq_some` —
  what each layout guarantees of a value that was read;
* `ModuleStatus.fits_of_read_write` — a report that its own bytes give back was written in full;
* `Payload.parse_stable` — a payload that was understood is valid, and its bytes give it back, exactly if its texts can
  be written.
-/

namespace CaptureProtocol

open Reader

namespace Reader

theorem lift_eq_some {α : Type} {found : Option α} {value : α} {bytes rest : Bytes}
    (h : (liftM found : Reader α) bytes = some (value, rest)) : found = some value ∧ rest = bytes := by
  cases found with
  | none => cases h
  | some other =>
    rw [lift_apply rfl, Option.some.injEq, Prod.mk.injEq] at h
    exact ⟨congrArg some h.1, h.2.symm⟩

theorem guard_eq_some {condition : Prop} [Decidable condition] {bytes : Bytes} {result : Unit × Bytes}
    (h : (guard condition : Reader Unit) bytes = some result) : condition := by
  by_contra hfalse
  rw [guard, if_neg hfalse] at h
  cases h

theorem skip_eq_some {count : Nat} {bytes rest : Bytes} {found : PUnit} (h : skip count bytes = some (found, rest)) :
    bytes.length = count + rest.length := by
  obtain ⟨front, left, htake, hpure⟩ := bind_eq_some.mp h
  cases pure_eq_some.mp hpure
  obtain ⟨hlength, rfl⟩ := take_eq_some htake
  rw [List.length_append, hlength]

end Reader

/-! ### The layouts -/

theorem Block.readData_eq_some {bytes rest data : Bytes} (h : readData bytes = some (data, rest)) :
    data.length ≤ 65535 ∧ bytes.length = 2 + data.length + rest.length := by
  obtain ⟨length, left, hlength, htake⟩ := bind_eq_some.mp h
  obtain ⟨hcount, rfl⟩ := take_eq_some htake
  have hbytes := u16_eq_some hlength
  have hlt := length.toNat_lt
  refine ⟨by omega, ?_⟩
  rw [hbytes, List.length_append, List.length_append, Bytes.ofUInt16_length]
  omega

theorem CanFrame.read_eq_some {limit : Nat} {bytes rest : Bytes} {frame : CanFrame}
    (h : CanFrame.read limit bytes = some (frame, rest)) : frame.data.length ≤ limit := by
  simp only [CanFrame.read, bind_eq_some, pure_eq_some] at h
  obtain ⟨_, _, -, _, _, -, _, _, -, _, _, -, _, _, -, _, _, -, length, _, -, _, _, hguard, data, _, htake, _, _, -,
    hframe⟩ := h
  cases hframe
  obtain ⟨hlength, -⟩ := take_eq_some htake
  rw [hlength]
  exact guard_eq_some hguard

namespace SampleWidth

theorem holds_of_samplesAfter {width : SampleWidth} {read samples : List Int32} {bytes : Bytes}
    (hread : read.all width.holds = true) (h : width.samplesAfter read bytes = some samples) :
    samples.all width.holds = true := by
  induction width, read, bytes using samplesAfter.induct with
  | case1 width read =>
    rw [samplesAfter, Option.some.injEq] at h
    rw [← h, List.all_reverse]
    exact hread
  | case2 read b1 b0 rest ih =>
    rw [samplesAfter] at h
    refine ih ?_ h
    rw [List.all_cons, hread, Bool.and_true]
    generalize (UInt16.ofNat (Bytes.value [b1, b0])).toInt16 = sample
    have hlow := sample.le_toInt
    have hhigh := sample.toInt_le
    rw [holds, Int16.toInt_toInt32, Bool.and_eq_true]
    exact ⟨decide_eq_true hlow, decide_eq_true hhigh⟩
  | case3 read b3 b2 b1 b0 rest ih =>
    rw [samplesAfter] at h
    refine ih ?_ h
    rw [List.all_cons, hread, Bool.and_true]
    generalize (UInt32.ofNat (Bytes.value [b3, b2, b1, b0])).toInt32 = sample
    have hlow := sample.le_toInt
    have hhigh := sample.toInt_le
    rw [holds, Bool.and_eq_true]
    exact ⟨decide_eq_true hlow, decide_eq_true hhigh⟩
  | case4 width read bytes hnil h16 h32 =>
    rw [samplesAfter] at h
    · cases h
    all_goals assumption

end SampleWidth

theorem AnalogBlock.read_eq_some {bytes rest : Bytes} {block : AnalogBlock}
    (h : AnalogBlock.read bytes = some (block, rest)) : block.samplesFit = true := by
  simp only [AnalogBlock.read, bind_eq_some, pure_eq_some] at h
  obtain ⟨_, _, -, _, _, -, _, _, -, width, _, -, _, _, -, _, _, -, _, _, -, _, _, -, left, _, -, samples, _,
    hsamples, hblock⟩ := h
  cases hblock
  obtain ⟨hfound, -⟩ := lift_eq_some hsamples
  exact SampleWidth.holds_of_samplesAfter rfl hfound

/-- A report of an interface that was read fits its length fields, and its link state goes by its name. -/
theorem InterfaceStatus.read_eq_some {bytes rest : Bytes} {status : InterfaceStatus}
    (h : InterfaceStatus.read bytes = some (status, rest)) : status.fits = true ∧ status.canonical = status := by
  simp only [InterfaceStatus.read, bind_eq_some, pure_eq_some] at h
  obtain ⟨_, _, -, _, _, -, _, _, -, _, _, -, _, _, -, _, _, -, _, _, -, _, _, -, _, _, -, _, _, -, count, _, -,
    streamIds, _, htake, _, _, -, vendorData, _, hvendor, _, _, -, hstatus⟩ := h
  cases hstatus
  obtain ⟨hcount, -⟩ := take_eq_some htake
  obtain ⟨hfits, -⟩ := Block.readData_eq_some hvendor
  have hlt := count.toNat_lt
  refine ⟨?_, ?_⟩
  · rw [InterfaceStatus.fits, Bool.and_eq_true]
    exact ⟨decide_eq_true (show streamIds.length ≤ 65535 by omega), decide_eq_true hfits⟩
  · rw [InterfaceStatus.canonical, LinkStatus.toRaw_ofRaw]

namespace ModuleStatus

/-- A report of a module that was read: nothing is lost when it is read again, its vendor data fit, and no text is more
than three times as long as what is left of the bytes without the header and the five length fields. -/
theorem read_eq_some {bytes rest : Bytes} {status : ModuleStatus}
    (h : ModuleStatus.read bytes = some (status, rest)) :
    status.canonical = status ∧ Bytes.fitsLengthField status.vendorData.length = true
      ∧ ∀ text ∈ status.texts, (Utf8.encode text).length + 108 ≤ 3 * bytes.length := by
  simp only [read, bind_eq_some, pure_eq_some] at h
  obtain ⟨_, _, huptime, _, _, hidentity, _, _, hquality, _, _, hoffset, _, _, hsource, _, _, hdomain, _, _, hskip,
    _, _, hflags, description, _, hdescription, serialNumber, _, hserial, hardwareVersion, _, hhardware,
    softwareVersion, _, hsoftware, vendorData, _, hvendor, _, _, -, hstatus⟩ := h
  cases hstatus
  obtain ⟨htrim1, hlength1⟩ := Block.readText_eq_some hdescription
  obtain ⟨htrim2, hlength2⟩ := Block.readText_eq_some hserial
  obtain ⟨htrim3, hlength3⟩ := Block.readText_eq_some hhardware
  obtain ⟨htrim4, hlength4⟩ := Block.readText_eq_some hsoftware
  obtain ⟨hfits, hlength5⟩ := Block.readData_eq_some hvendor
  refine ⟨?_, decide_eq_true hfits, ?_⟩
  · simp only [canonical, htrim1, htrim2, htrim3, htrim4]
  · have hheader := congrArg List.length (u64_eq_some huptime)
    rw [u64_eq_some hidentity, u32_eq_some hquality, u16_eq_some hoffset, u8_eq_some hsource,
      u8_eq_some hdomain] at hheader
    simp only [List.length_append, Bytes.ofUInt64_length, Bytes.ofUInt32_length, Bytes.ofUInt16_length,
      List.length_cons] at hheader
    have hreserved := skip_eq_some hskip
    have hlast := congrArg List.length (u8_eq_some hflags)
    rw [List.length_cons] at hlast
    intro text htext
    simp only [texts, List.mem_cons, List.not_mem_nil, or_false] at htext
    rcases htext with rfl | rfl | rfl | rfl <;> omega

/-- A report that its bytes give back was written in full. -/
theorem fits_of_read_write {status : ModuleStatus} {rest : Bytes}
    (hvendor : Bytes.fitsLengthField status.vendorData.length = true)
    (h : ModuleStatus.read status.write = some (status, rest)) : status.fits = true := by
  simp only [read, write, List.append_assoc, List.cons_append, List.nil_append] at h
  rw [bind_of_eq_some _ (u64_append ..), bind_of_eq_some _ (u64_append ..), bind_of_eq_some _ (u32_append ..),
    bind_of_eq_some _ (u16_append ..), bind_of_eq_some _ (u8_cons ..), bind_of_eq_some _ (u8_cons ..),
    bind_of_eq_some _ (skip_cons ..), bind_of_eq_some _ (u8_cons ..)] at h
  simp only [bind_eq_some, pure_eq_some] at h
  obtain ⟨description, left, hdescription, serialNumber, _, hserial, hardwareVersion, _, hhardware, softwareVersion, _,
    hsoftware, _, _, -, _, _, -, hstatus⟩ := h
  have hsame := congrArg Prod.fst hstatus
  have hread1 : status.description = description := congrArg ModuleStatus.description hsame
  have hread2 : status.serialNumber = serialNumber := congrArg ModuleStatus.serialNumber hsame
  have hread3 : status.hardwareVersion = hardwareVersion := congrArg ModuleStatus.hardwareVersion hsame
  have hread4 : status.softwareVersion = softwareVersion := congrArg ModuleStatus.softwareVersion hsame
  subst hread1 hread2 hread3 hread4
  -- each text that was written in full shows where the next one begins
  obtain ⟨hfits1, rfl⟩ := Block.fits_and_rest_of_readText hdescription
  obtain ⟨hfits2, rfl⟩ := Block.fits_and_rest_of_readText hserial
  obtain ⟨hfits3, rfl⟩ := Block.fits_and_rest_of_readText hhardware
  obtain ⟨hfits4, -⟩ := Block.fits_and_rest_of_readText hsoftware
  simp only [fits, texts, List.all_cons, List.all_nil, hfits1, hfits2, hfits3, hfits4, hvendor, Bool.and_true]

end ModuleStatus

/-! ### Payloads -/

namespace PayloadType

/-- A byte that names a type with a message kind stands for it under that kind only. -/
theorem eq_of_ofRaw {kind carrier : MessageType} {raw : UInt8} (h : (ofRaw kind raw).messageType? = some carrier) :
    carrier = kind ∧ (ofRaw kind raw).toRaw = raw := by
  unfold ofRaw at h ⊢
  split_ifs at h ⊢
  · cases h
  all_goals cases kind <;> cases h <;> simp_all [toRaw]

end PayloadType

namespace Payload

/-- Whether a payload was understood. -/
def isKnown : Payload → Bool
  | undefined .. => false
  | _ => true

/-- The texts of a payload. -/
def texts : Payload → List String
  | captureModuleStatus status => status.texts
  | _ => []

/-- The most bytes of a text that can be written: with its padding it has at most 65535. -/
def textLimit : Nat := 65534

theorem fitsLengthField_paddedLength (text : String) :
    Bytes.fitsLengthField (Block.paddedLength text) = true ↔ (Utf8.encode text).length ≤ textLimit := by
  rw [Bytes.fitsLengthField, decide_eq_true_iff, Block.paddedLength, Bytes.evenLength, textLimit]
  omega

theorem parse_of_isKnown {kind : MessageType} {raw : UInt8} {body : Bytes} (h : (parse kind raw body).isKnown = true) :
    parseKnown? (.ofRaw kind raw) body = some (parse kind raw body) := by
  unfold parse at h ⊢
  cases hfound : parseKnown? (.ofRaw kind raw) body with
  | none =>
    rw [hfound] at h
    cases h
  | some payload => rfl

theorem parse_eq_some {α : Type} {reader : Reader α} {body : Bytes} {make : α → Payload} {payload : Payload}
    (h : (reader.parse body).map make = some payload) :
    ∃ value rest, reader body = some (value, rest) ∧ make value = payload := by
  rw [Reader.parse, Option.map_map, Option.map_eq_some_iff] at h
  obtain ⟨⟨value, rest⟩, hread, hpayload⟩ := h
  exact ⟨value, rest, hread, hpayload⟩

/-- A payload that was read from a body: it has the type that the reader was chosen for, reading it again loses
nothing, and only a text can be too long to be sent. -/
theorem parseKnown?_eq_some {type : PayloadType} {body : Bytes} {payload : Payload}
    (h : parseKnown? type body = some payload) :
    payload.payloadType = type ∧ payload.canonical = payload
      ∧ (payload.isValid = true ↔ ∀ text ∈ payload.texts, (Utf8.encode text).length ≤ textLimit)
      ∧ (∀ text ∈ payload.texts, (Utf8.encode text).length + 108 ≤ 3 * body.length)
      ∧ (parseKnown? type payload.toBytes = some payload → payload.isValid = true) := by
  cases type with
  | can =>
    obtain ⟨frame, rest, hread, rfl⟩ := parse_eq_some h
    have hvalid : (can frame).isValid = true := decide_eq_true (CanFrame.read_eq_some hread)
    exact ⟨rfl, rfl, iff_of_true hvalid (List.forall_mem_nil _), List.forall_mem_nil _, fun _ => hvalid⟩
  | canFd =>
    obtain ⟨frame, rest, hread, rfl⟩ := parse_eq_some h
    have hvalid : (canFd frame).isValid = true := decide_eq_true (CanFrame.read_eq_some hread)
    exact ⟨rfl, rfl, iff_of_true hvalid (List.forall_mem_nil _), List.forall_mem_nil _, fun _ => hvalid⟩
  | analog =>
    obtain ⟨block, rest, hread, rfl⟩ := parse_eq_some h
    have hvalid : (analog block).isValid = true := AnalogBlock.read_eq_some hread
    exact ⟨rfl, rfl, iff_of_true hvalid (List.forall_mem_nil _), List.forall_mem_nil _, fun _ => hvalid⟩
  | interfaceStatus =>
    obtain ⟨status, rest, hread, rfl⟩ := parse_eq_some h
    obtain ⟨hvalid, hcanonical⟩ := InterfaceStatus.read_eq_some hread
    exact ⟨rfl, congrArg interfaceStatus hcanonical, iff_of_true hvalid (List.forall_mem_nil _),
      List.forall_mem_nil _, fun _ => hvalid⟩
  | captureModuleStatus =>
    obtain ⟨status, rest, hread, rfl⟩ := parse_eq_some h
    obtain ⟨hcanonical, hvendor, hlengths⟩ := ModuleStatus.read_eq_some hread
    refine ⟨rfl, congrArg captureModuleStatus hcanonical, ?_, hlengths, fun hback => ?_⟩
    · show status.fits = true ↔ ∀ text ∈ status.texts, _
      rw [ModuleStatus.fits, hvendor, Bool.and_true, List.all_eq_true]
      exact forall₂_congr fun text _ => fitsLengthField_paddedLength text
    · have hparse : (ModuleStatus.read.parse status.write).map captureModuleStatus
          = some (captureModuleStatus status) := hback
      obtain ⟨again, _, hagain, hsame⟩ := parse_eq_some hparse
      rw [Payload.captureModuleStatus.inj hsame] at hagain
      exact ModuleStatus.fits_of_read_write hvendor hagain
  | invalid => cases h
  | other => cases h

/-- A payload that was understood can be sent on.  The only exception is a text that is too long to be written, which
takes a body of more than 21880 bytes; every other payload is valid, and exactly then its bytes give it back. -/
theorem parse_stable {kind : MessageType} {raw : UInt8} {body : Bytes} (h : (parse kind raw body).isKnown = true) :
    ((parse kind raw body).isValid = true
        ↔ ∀ text ∈ (parse kind raw body).texts, (Utf8.encode text).length ≤ textLimit)
      ∧ (body.length ≤ 21880 → (parse kind raw body).isValid = true)
      ∧ ((parse kind raw body).isValid = true
        ↔ parse kind raw (parse kind raw body).toBytes = parse kind raw body) := by
  obtain ⟨htype, hcanonical, hvalid, hlengths, hback⟩ := parseKnown?_eq_some (parse_of_isKnown h)
  refine ⟨hvalid, fun hbody => hvalid.mpr fun text htext => ?_, fun hsent => ?_, fun hsame => hback ?_⟩
  · have hlength := hlengths text htext
    show _ ≤ 65534
    omega
  · obtain ⟨carrier, hcarrier⟩ : ∃ carrier, (parse kind raw body).payloadType.messageType? = some carrier := by
      cases hpayload : parse kind raw body with
      | undefined => rw [hpayload] at h; cases h
      | _ => exact ⟨_, rfl⟩
    have hnamed : (PayloadType.ofRaw kind raw).messageType? = some carrier := by rwa [htype] at hcarrier
    obtain ⟨rfl, htoRaw⟩ := PayloadType.eq_of_ofRaw hnamed
    have hraw : (parse carrier raw body).rawType = raw := by
      rw [rawType_of_isValid hsent, htype, htoRaw]
    have hback := parse_toBytes hsent hcarrier
    rwa [hcanonical, hraw] at hback
  · have hagain := parse_of_isKnown ((congrArg isKnown hsame).trans h)
    rwa [hsame] at hagain

/-- A bus frame whose length code and data length disagree. -/
theorem parse_stable_can :
    (parse .data 1 [0, 0, 0, 0, 0, 0, 1, 0x23, 0, 0, 0, 0, 0, 0, 8, 2, 0xAB, 0xCD]).isKnown = true
      ∧ (parse .data 1 [0, 0, 0, 0, 0, 0, 1, 0x23, 0, 0, 0, 0, 0, 0, 8, 2, 0xAB, 0xCD]).isValid = true := by
  have hknown : (parse .data 1 [0, 0, 0, 0, 0, 0, 1, 0x23, 0, 0, 0, 0, 0, 0, 8, 2, 0xAB, 0xCD]).isKnown = true := by
    decide
  exact ⟨hknown, (parse_stable hknown).2.1 (by decide)⟩

/-- A status report whose description has 65535 bytes, the most that its length field can announce. -/
def overlongReport : Bytes :=
  List.replicate 26 0 ++ (Block.writeData (List.replicate 65535 0x61) ++ List.replicate 8 0)

theorem encodeChar_replicate (count : Nat) :
    (List.replicate count 'a').flatMap String.utf8EncodeChar = List.replicate count 0x61 := by
  have hone : String.utf8EncodeChar 'a' = [0x61] := by decide
  rw [List.flatMap_replicate, hone, List.flatten_replicate_singleton]

theorem decodeLossy_replicate (count : Nat) :
    Utf8.decodeLossy (Block.trimZeros (List.replicate count 0x61)) = String.ofList (List.replicate count 'a') := by
  have hchars : (List.replicate count 'a').rdropWhile (· == '\x00') = List.replicate count 'a' := by
    rw [List.rdropWhile_eq_self_iff]
    intro hne
    rw [List.getLast_replicate]
    decide
  rw [← encodeChar_replicate, Block.trimZeros_flatMap, Utf8.decodeLossy_flatMap, hchars]

theorem read_overlongReport :
    ModuleStatus.read overlongReport = some ({ description := String.ofList (List.replicate 65535 'a') }, []) := by
  have hheader : List.replicate 26 (0 : UInt8) = Bytes.ofUInt64 0 ++ Bytes.ofUInt64 0 ++ Bytes.ofUInt32 0
      ++ Bytes.ofUInt16 0 ++ [0, 0, 0, 0] := by decide
  have hblocks : List.replicate 8 (0 : UInt8) = Block.writeText "" ++ (Block.writeText "" ++ (Block.writeText ""
      ++ (Block.writeData [] ++ []))) := by decide
  have hempty : Bytes.fitsLengthField (Block.paddedLength "") = true := by decide
  have hdescription : ∀ rest, Block.readText (Block.writeData (List.replicate 65535 0x61) ++ rest)
      = some (String.ofList (List.replicate 65535 'a'), rest) := by
    intro rest
    rw [Block.readText, bind_of_eq_some _ (Block.readData_append _ _ ?_), decodeLossy_replicate, pure_apply]
    rw [Bytes.fitsLengthField, List.length_replicate]
    decide
  rw [ModuleStatus.read, overlongReport, hheader, hblocks]
  simp only [List.append_assoc, List.cons_append, List.nil_append]
  rw [bind_of_eq_some _ (u64_append ..), bind_of_eq_some _ (u64_append ..), bind_of_eq_some _ (u32_append ..),
    bind_of_eq_some _ (u16_append ..), bind_of_eq_some _ (u8_cons ..), bind_of_eq_some _ (u8_cons ..),
    bind_of_eq_some _ (skip_cons ..), bind_of_eq_some _ (u8_cons ..), bind_of_eq_some _ (hdescription _),
    bind_of_eq_some _ (Block.readText_append _ _ hempty), bind_of_eq_some _ (Block.readText_append _ _ hempty),
    bind_of_eq_some _ (Block.readText_append _ _ hempty), bind_of_eq_some _ (Block.readData_append _ _ (by decide)),
    bind_of_eq_some _ finish_nil, pure_apply]
  rfl

/-- The report is understood, but it can neither be sent nor does it come back from its own bytes. -/
theorem parse_overlongReport :
    (parse .status 1 overlongReport).isKnown = true ∧ (parse .status 1 overlongReport).isValid = false
      ∧ parse .status 1 (parse .status 1 overlongReport).toBytes ≠ parse .status 1 overlongReport := by
  have hfound : parseKnown? (.ofRaw .status 1) overlongReport
      = some (captureModuleStatus { description := String.ofList (List.replicate 65535 'a') }) := by
    show (ModuleStatus.read.parse overlongReport).map captureModuleStatus = _
    rw [Reader.parse, read_overlongReport]
    rfl
  have hparse : parse .status 1 overlongReport
      = captureModuleStatus { description := String.ofList (List.replicate 65535 'a') } := by
    rw [parse, hfound]
    rfl
  obtain ⟨-, -, hvalid, -, hback⟩ := parseKnown?_eq_some hfound
  have hinvalid : (captureModuleStatus { description := String.ofList (List.replicate 65535 'a') }).isValid ≠ true := by
    intro hsent
    have hlength := hvalid.mp hsent _ (List.mem_cons_self ..)
    rw [Utf8.encode, String.toList_ofList, encodeChar_replicate, List.length_replicate, textLimit] at hlength
    omega
  rw [hparse]
  refine ⟨rfl, eq_false_of_ne_true hinvalid, fun hsame => hinvalid (hback ?_)⟩
  have hagain := parse_of_isKnown (congrArg isKnown hsame)
  rwa [hsame] at hagain

end Payload

end CaptureProtocol
