import CaptureProtocol.Proofs.Boards
import CaptureProtocol.Proofs.CaptureBooks
import CaptureProtocol.Proofs.CleanDelivery
import CaptureProtocol.Proofs.ReadPayloads
import CaptureProtocol.Proofs.RoundTrip
import Mathlib

/-!
# Reports reach the board

A module reports on itself first and then on its interfaces, all through slot 0.  However the reports are cut into
frames, the board of a sink shows them afterwards.

* `ModuleIdentity.Reportable` — texts and vendor data that can be sent and read back as they are;
* `CaptureModule.sendable_reports` — every report of a module can be sent; `exists_statusEncoder` finds the encoder;
* `Encoder.isReport_delivered` — what arrives of a report is a valid status packet;
* `DataSink.performAll_board` — a sink that takes frames puts their reports on its board;
* `CaptureModule.Shown` — a board shows what a module reported, and otherwise what it showed before;
  `shown_reports` says that the delivered reports lead to this;
* `CaptureModule.sendReports_shown` — from the module to the board.
-/

namespace CaptureProtocol

/-! ### What a module says about itself -/

/-- A text without a NUL character at its end is read back as it is. -/
theorem Block.trimNul_of_getLast? {text : String} (h : text.toList.getLast? ≠ some '\x00') :
    Block.trimNul text = text := by
  have hkept : text.toList.rdropWhile (· == '\x00') = text.toList := by
    rw [List.rdropWhile_eq_self_iff]
    intro hne hnul
    rw [List.getLast?_eq_some_getLast hne, beq_iff_eq.mp hnul] at h
    exact h rfl
  rw [Block.trimNul, hkept, String.ofList_toList]

namespace ModuleIdentity

variable {device : ModuleIdentity}

/-- The four texts of a module. -/
def texts (device : ModuleIdentity) : List String :=
  [device.description, device.serialNumber, device.hardwareVersion, device.softwareVersion]

/-- What a module says about itself can be sent, and is read back as it is. -/
structure Reportable (device : ModuleIdentity) : Prop where
  /-- With its padding a text has at most 65535 bytes. -/
  texts_length : ∀ text ∈ device.texts, (Utf8.encode text).length ≤ 65534
  /-- NUL characters at the end of a text would be taken for padding. -/
  texts_last : ∀ text ∈ device.texts, text.toList.getLast? ≠ some '\x00'
  vendorData_length : device.vendorData.length ≤ 65535

/-- The report of a module at a time. -/
def status (device : ModuleIdentity) (uptime : UInt64) : ModuleStatus where
  uptime
  description := device.description
  serialNumber := device.serialNumber
  hardwareVersion := device.hardwareVersion
  softwareVersion := device.softwareVersion
  vendorData := device.vendorData

theorem Reportable.status_fits (h : device.Reportable) (uptime : UInt64) : (device.status uptime).fits = true := by
  rw [ModuleStatus.fits, Bool.and_eq_true, List.all_eq_true]
  refine ⟨?_, decide_eq_true h.vendorData_length⟩
  intro text htext
  exact (Payload.fitsLengthField_paddedLength text).mpr (h.texts_length text htext)

theorem Reportable.status_canonical (h : device.Reportable) (uptime : UInt64) :
    (device.status uptime).canonical = device.status uptime := by
  have htrim : ∀ text ∈ device.texts, Block.trimNul text = text := fun text htext =>
    Block.trimNul_of_getLast? (h.texts_last text htext)
  simp only [texts, List.forall_mem_cons] at htrim
  obtain ⟨hdescription, hserial, hhardware, hsoftware, -⟩ := htrim
  simp only [ModuleStatus.canonical, status, hdescription, hserial, hhardware, hsoftware]

end ModuleIdentity

namespace CaptureModule

variable {T : Type} {capture : CaptureModule T} {interface : BusInterface} {uptime : UInt64}

/-- The record that the report of an interface makes. -/
def interfaceRecord (capture : CaptureModule T) (uptime : UInt64) (interface : BusInterface) : InterfaceRecord :=
  ⟨interface.id, uptime, (interface.statusReport (capture.streamsOf interface)).canonical⟩

/-- The report of an interface. -/
def interfaceReport (capture : CaptureModule T) (uptime : UInt64) (interface : BusInterface) : Packet :=
  .ofPayload interface.id uptime (.interfaceStatus (interface.statusReport (capture.streamsOf interface)))

theorem reports_eq (capture : CaptureModule T) (uptime : UInt64) :
    capture.reports uptime = .ofPayload 0 uptime (.captureModuleStatus (capture.device.status uptime))
      :: capture.listedInterfaces.map (capture.interfaceReport uptime) := rfl

/-- There are fewer streams than identifiers. -/
theorem WellKept.length_streamsOf (h : capture.WellKept) (hinterface : interface ∈ capture.listedInterfaces) :
    (capture.streamsOf interface).length ≤ 256 := by
  have hsublist : (capture.streamsOf interface).Sublist capture.liveStreams :=
    List.sublist_flatten_of_mem (List.mem_map.mpr ⟨interface, hinterface, rfl⟩)
  have hnodup := h.booksBalance.streamIds_nodup.sublist (hsublist.map CaptureStream.id)
  have hcard := hnodup.length_le_card
  rw [List.length_map, ← FinEnum.card_eq_fintypeCard, FinEnum.card_UInt8] at hcard
  exact hcard

/-- Every report can be sent. -/
theorem sendable_reports (h : capture.WellKept) (hdevice : capture.device.Reportable) (uptime : UInt64) :
    ∀ packet ∈ capture.reports uptime, packet.Sendable := by
  rw [reports_eq]
  refine List.forall_mem_cons.mpr ⟨⟨hdevice.status_fits uptime, rfl⟩, ?_⟩
  intro packet hpacket
  obtain ⟨interface, hinterface, rfl⟩ := List.mem_map.mp hpacket
  refine ⟨?_, rfl⟩
  have hstreams := h.length_streamsOf hinterface
  have hlength : ((capture.streamsOf interface).map CaptureStream.id).length ≤ 65535 := by
    rw [List.length_map]
    omega
  exact Bool.and_eq_true_iff.mpr ⟨decide_eq_true hlength, rfl⟩

/-- Slot 0 has an encoder for the module, which takes reports of all types. -/
theorem WellKept.exists_statusEncoder (h : capture.WellKept) :
    ∃ encoder, capture.resources.encoders.encoder? statusSlot = some encoder
      ∧ encoder.deviceId = capture.device.deviceId ∧ encoder.payloadType = none := by
  obtain ⟨encoder, hencoder, hbinding⟩ := Option.map_eq_some_iff.mp h.booksBalance.statusSlot
  exact ⟨encoder, hencoder, congrArg Encoder.deviceId hbinding, congrArg Encoder.payloadType hbinding⟩

end CaptureModule

/-! ### What arrives of a report -/

namespace Encoder

variable {encoder : Encoder} {packet : Packet}

theorem accepts_of_unbound (htype : encoder.payloadType = none) (hsendable : packet.Sendable) :
    encoder.accepts packet = true := by
  rw [accepts, refusal?, htype, Option.isNone_iff_eq_none]
  exact if_pos hsendable.valid

/-- A report arrives as a valid status packet. -/
theorem isReport_delivered (encoder : Encoder) (hvalid : packet.payload.canonical.isValid = true)
    (hkind : packet.payload.canonical.payloadType.messageType? = some .status)
    (hstatus : packet.messageType = .status) : (encoder.delivered packet).isReport = true := by
  rw [Packet.isReport, Packet.isValid, Packet.payloadType, delivered, hvalid, hkind, hstatus]
  rfl

end Encoder

/-! ### Frames on a sink -/

namespace DataSink

variable {sink : DataSink} {operation : SinkOperation} {operations : List SinkOperation} {arrival : Arrival}
  {arrivals : List Arrival}

theorem takeFrame_decoder (sink : DataSink) (now : Nat) (frame : Bytes) :
    (sink.takeFrame now frame).1.decoder = (sink.decoder.decode now frame).1 := by
  have hnoted : (sink.noted now frame).decoder = (sink.decoder.decode now frame).1 := rfl
  rw [takeFrame_fst]
  refine dispatch_publishes (·.router) react (fun world => world.decoder = (sink.decoder.decode now frame).1) ?_ hnoted
  intro entry _ world hworld
  exact (foldl_react_decoder _ world entry.1 entry.2).1.trans hworld

/-- A sink that takes frames puts their reports on its board, in order. -/
theorem performAll_board (h : operations.map SinkOperation.arrival? = arrivals.map some) :
    (sink.performAll operations).board
      = sink.board.processAll ((sink.decoder.receive arrivals).2.filter Packet.isReport) := by
  induction arrivals generalizing sink operations with
  | nil =>
    rw [List.map_nil, List.map_eq_nil_iff] at h
    subst h
    rfl
  | cons arrival arrivals ih =>
    obtain ⟨operation, later, rfl, harrival, hlater⟩ := List.map_eq_cons_iff.mp h
    have hboard : (sink.perform operation).board
        = sink.board.processAll ((sink.decoder.decode arrival.time arrival.bytes).2.filter Packet.isReport) := by
      rw [perform_arrival harrival]
      exact (sink.takeFrame_noted arrival.time arrival.bytes).1
    have hdecoder : (sink.perform operation).decoder = (sink.decoder.decode arrival.time arrival.bytes).1 := by
      rw [perform_arrival harrival, takeFrame_decoder]
    rw [performAll, List.foldl_cons, Decoder.receive_cons, List.filter_append]
    refine (ih hlater).trans ?_
    rw [hboard, hdecoder]
    exact (List.foldl_append ..).symm

end DataSink

/-! ### From the module to the board -/

namespace CaptureModule

variable {T : Type} {capture : CaptureModule T} {uptime : UInt64} {encoder : Encoder}

/-- A board shows in the record of a module what the module reported at a time.  Other interfaces under the same device
and other devices are shown as before. -/
structure Shown (capture : CaptureModule T) (uptime : UInt64) (before after : StatusBoard) (record : DeviceRecord) :
    Prop where
  found : after.device? capture.device.deviceId = some record
  timestamp : record.timestamp = uptime
  status : record.status = capture.device.status uptime
  interfaces : ∀ interface ∈ capture.listedInterfaces,
    record.interface? interface.id = some (capture.interfaceRecord uptime interface)
  otherInterfaces : record.interfaces.filter (·.interfaceId ∉ capture.listedInterfaces.map BusInterface.id)
    = (((before.device? capture.device.deviceId).map DeviceRecord.interfaces).getD []).filter
      (·.interfaceId ∉ capture.listedInterfaces.map BusInterface.id)
  otherDevices : after.devices.filter (·.deviceId ≠ capture.device.deviceId)
    = before.devices.filter (·.deviceId ≠ capture.device.deviceId)

/-- What arrives of the report of the module is put on the board as it was sent. -/
theorem process_moduleReport (hdevice : capture.device.Reportable) (uptime : UInt64)
    (hencoder : encoder.deviceId = capture.device.deviceId) (board : StatusBoard) :
    (board.process (encoder.delivered
        (.ofPayload 0 uptime (.captureModuleStatus (capture.device.status uptime))))).1
      = board.reportModule capture.device.deviceId uptime (capture.device.status uptime) := by
  show board.reportModule encoder.deviceId uptime (capture.device.status uptime).canonical = _
  rw [hencoder, hdevice.status_canonical]

theorem record?_delivered (capture : CaptureModule T) (uptime : UInt64) (encoder : Encoder) (interface : BusInterface) :
    (encoder.delivered (capture.interfaceReport uptime interface)).record?
      = some (capture.interfaceRecord uptime interface) := rfl

/-- The records that the reports of the interfaces make. -/
theorem filterMap_record? (capture : CaptureModule T) (uptime : UInt64) (encoder : Encoder) :
    ((capture.listedInterfaces.map (capture.interfaceReport uptime)).map encoder.delivered).filterMap Packet.record?
      = capture.listedInterfaces.map (capture.interfaceRecord uptime) := by
  have hrecord : (Packet.record? ∘ encoder.delivered) ∘ capture.interfaceReport uptime
      = some ∘ capture.interfaceRecord uptime := by
    funext interface
    exact capture.record?_delivered uptime encoder interface
  rw [List.filterMap_map, List.filterMap_map, hrecord, List.filterMap_eq_map]

theorem map_interfaceId (capture : CaptureModule T) (uptime : UInt64) :
    (capture.listedInterfaces.map (capture.interfaceRecord uptime)).map InterfaceRecord.interfaceId
      = capture.listedInterfaces.map BusInterface.id := by
  rw [List.map_map]
  rfl

theorem isReport_reports (h : capture.WellKept) (hdevice : capture.device.Reportable) (uptime : UInt64)
    (encoder : Encoder) : ∀ packet ∈ (capture.reports uptime).map encoder.delivered, packet.isReport = true := by
  intro packet hpacket
  obtain ⟨report, hreport, rfl⟩ := List.mem_map.mp hpacket
  have hvalid := (sendable_reports h hdevice uptime report hreport).valid
  rw [reports_eq] at hreport
  rcases List.mem_cons.mp hreport with rfl | hinterface
  · refine encoder.isReport_delivered ?_ rfl rfl
    show (capture.device.status uptime).canonical.fits = true
    rw [hdevice.status_canonical]
    exact hvalid
  · obtain ⟨interface, -, rfl⟩ := List.mem_map.mp hinterface
    exact encoder.isReport_delivered hvalid rfl rfl

/-- The reports of a module, as they arrive, lead to a board that shows them.  The report of the module comes first, so
that those of its interfaces count. -/
theorem shown_reports (h : capture.WellKept) (hdevice : capture.device.Reportable) (uptime : UInt64)
    (hencoder : encoder.deviceId = capture.device.deviceId) (board : StatusBoard) :
    ∃ record,
      capture.Shown uptime board (board.processAll ((capture.reports uptime).map encoder.delivered)) record := by
  -- the report of the module
  let known := board.reportModule capture.device.deviceId uptime (capture.device.status uptime)
  let kept := ((board.device? capture.device.deviceId).map DeviceRecord.interfaces).getD []
  have hknown : known.device? capture.device.deviceId
      = some ⟨capture.device.deviceId, uptime, capture.device.status uptime, kept⟩ := board.device?_reportModule ..
  -- the reports of its interfaces
  let packets := (capture.listedInterfaces.map (capture.interfaceReport uptime)).map encoder.delivered
  let records := capture.listedInterfaces.map (capture.interfaceRecord uptime)
  have hpackets : ∀ packet ∈ packets, packet.deviceId = capture.device.deviceId ∧ packet.record?.isSome = true := by
    intro packet hpacket
    obtain ⟨report, hreport, rfl⟩ := List.mem_map.mp hpacket
    obtain ⟨interface, -, rfl⟩ := List.mem_map.mp hreport
    exact ⟨hencoder, rfl⟩
  have hrecords : packets.filterMap Packet.record? = records := capture.filterMap_record? uptime encoder
  have hids : records.map InterfaceRecord.interfaceId = capture.listedInterfaces.map BusInterface.id :=
    capture.map_interfaceId uptime
  have hall : board.processAll ((capture.reports uptime).map encoder.delivered) = known.processAll packets := by
    rw [reports_eq, List.map_cons, StatusBoard.processAll, List.foldl_cons, process_moduleReport hdevice uptime hencoder]
    rfl
  obtain ⟨hfound, hothers⟩ := StatusBoard.processAll_records hknown hpackets
  rw [hrecords, DeviceRecord.reportAll_eq] at hfound
  refine ⟨_, hall ▸ hfound, rfl, rfl, ?_, ?_, ?_⟩
  · intro interface hinterface
    have hnodup : (records.map InterfaceRecord.interfaceId).Nodup := hids ▸ h.booksBalance.interfaceIds_nodup
    exact DeviceRecord.interface?_reportAll _ hnodup (List.mem_map.mpr ⟨interface, hinterface, rfl⟩)
  · refine DeviceRecord.filter_reportAll _ (fun id => id ∉ capture.listedInterfaces.map BusInterface.id) ?_
    intro record hrecord
    rw [← hids]
    exact decide_eq_false (not_not.mpr (List.mem_map.mpr ⟨record, hrecord, rfl⟩))
  · rw [hall]
    have hkeep : decide (capture.device.deviceId ≠ capture.device.deviceId) = false := decide_eq_false (not_not.mpr rfl)
    have hsame := board.filter_reportModule uptime (capture.device.status uptime)
      (fun id => id ≠ capture.device.deviceId) hkeep
    exact (hothers (fun id => id ≠ capture.device.deviceId) hkeep).trans hsame

/-- The frames of the reports are handed to the sender. -/
theorem sendReports_hands [FrameSender T] {frames : List Bytes}
    (hencode : (capture.resources.encoders.encode statusSlot capture.resources.limits (capture.reports uptime)).2
      = .ok frames) :
    (capture.sendReports uptime).1.resources.sender = (sendAll capture.resources.sender frames).1
      ∧ (capture.sendReports uptime).2 = (sendAll capture.resources.sender frames).2.map fun () => frames.length := by
  rw [sendReports]
  generalize capture.resources.encoders.encode statusSlot capture.resources.limits (capture.reports uptime) = encoded
    at hencode ⊢
  obtain ⟨encoders, result⟩ := encoded
  subst hencode
  exact ⟨rfl, rfl⟩

/-- The reports of a module are never refused by its encoder, and a sink that takes their frames shows them, whatever it
was told before and however the reports are cut.  Nothing that the sink has begun to put together may go stale in the
meantime. -/
theorem sendReports_shown [FrameSender T] (hcapture : Reachable capture) (hdevice : capture.device.Reportable)
    (uptime : UInt64) :
    ∃ frames : List Bytes,
      (capture.resources.encoders.encode statusSlot capture.resources.limits (capture.reports uptime)).2 = .ok frames
        ∧ (capture.sendReports uptime).1.resources.sender = (sendAll capture.resources.sender frames).1
        ∧ (capture.sendReports uptime).2 = (sendAll capture.resources.sender frames).2.map (fun () => frames.length)
        ∧ ∀ (sink : DataSink) (operations : List SinkOperation) (arrivals : List Arrival),
          operations.map SinkOperation.arrival? = arrivals.map some → List.Forall₂ Carries frames arrivals →
          sink.decoder.Undisturbed arrivals →
          ∃ record, capture.Shown uptime sink.board (sink.performAll operations).board record := by
  have hkeeps := hcapture.wellKept
  obtain ⟨encoder, hencoder, hid, htype⟩ := hkeeps.exists_statusEncoder
  have hsendable := sendable_reports hkeeps hdevice uptime
  obtain ⟨frames, hencode⟩ : ∃ frames,
      (encoder.encode capture.resources.limits (capture.reports uptime)).2 = .ok frames :=
    ⟨_, Encoder.encode_of_accepts hkeeps.usable fun packet hpacket =>
      Encoder.accepts_of_unbound htype (hsendable packet hpacket)⟩
  have hslot : (capture.resources.encoders.encode statusSlot capture.resources.limits (capture.reports uptime)).2
      = .ok frames := by
    rw [EncoderRack.encode_of_encoder? hencoder]
    exact hencode
  obtain ⟨hsender, hanswer⟩ := sendReports_hands hslot
  refine ⟨frames, hslot, hsender, hanswer, ?_⟩
  intro sink operations arrivals hoperations hcarries hundisturbed
  -- what the sink decodes are the reports, all of them valid
  have hreceive := Decoder.receive_encode hencode (fun packet hpacket => (hsendable packet hpacket).kind) hcarries
    hundisturbed
  have hreports : ((capture.reports uptime).map encoder.delivered).filter Packet.isReport
      = (capture.reports uptime).map encoder.delivered :=
    List.filter_eq_self.mpr (isReport_reports hkeeps hdevice uptime encoder)
  rw [DataSink.performAll_board hoperations, hreceive, hreports]
  exact shown_reports hkeeps hdevice uptime hid sink.board

/-- A configuration whose frames are so short that the report of a module is cut. -/
def shortFrames : LinkConfig := { minFrameSize := 32, maxFrameSize := 80, reserveZeroInterfaceId := false }

/-- A new module that says something about itself. -/
def namedBench : CaptureModule LoopbackQueue where
  config := shortFrames
  resources := .create shortFrames 3 { source := [2, 0, 0, 0, 0, 1], capacity := 4 }
  device := { deviceId := 3, description := "bench", serialNumber := "7", vendorData := List.replicate 30 5 }

/-- The module with two interfaces, one of them under identifier 0, which reports use too. -/
def reportingBench : CaptureModule LoopbackQueue :=
  let withInterface := (namedBench.perform (.addInterface .can (some 0))).1
  let withStream := (withInterface.perform (.onInterface 0 (.addStream .can none))).1
  (withStream.perform (.addInterface .analog none)).1

theorem reachable_reportingBench : Reachable reportingBench := by
  have hcreate : create shortFrames namedBench.device namedBench.resources.sender = .ok namedBench := rfl
  exact .perform (.perform (.perform (.create hcreate) trivial) (by decide +kernel)) trivial

theorem sendReports_shown_reportingBench :
    Reachable reportingBench ∧ reportingBench.device.Reportable
      ∧ reportingBench.listedInterfaces.map BusInterface.id = [0, 1]
      ∧ ∃ (frames : List Bytes) (record : DeviceRecord), frames.length = 4
        ∧ reportingBench.Shown 7 DataSink.newSink.board
          (DataSink.newSink.performAll (frames.map (SinkOperation.takeFrame 5))).board record := by
  have hdevice : reportingBench.device.Reportable := ⟨by decide +kernel, by decide +kernel, by decide +kernel⟩
  obtain ⟨frames, hencode, -, -, hshown⟩ := sendReports_shown reachable_reportingBench hdevice 7
  have hcount : (reportingBench.resources.encoders.encode statusSlot reportingBench.resources.limits
      (reportingBench.reports 7)).2.toOption.map List.length = some 4 := by decide +kernel
  rw [hencode] at hcount
  have hcarries : List.Forall₂ Carries frames (frames.map (Arrival.mk 5)) := by
    rw [List.forall₂_map_right_iff, List.forall₂_same]
    exact fun frame _ => ⟨0, (List.append_nil frame).symm⟩
  have hundisturbed : DataSink.newSink.decoder.Undisturbed (frames.map (Arrival.mk 5)) := by
    refine Decoder.undisturbed_of_within 5 (List.forall_mem_nil _) fun arrival harrival => ?_
    obtain ⟨bytes, -, rfl⟩ := List.mem_map.mp harrival
    have hsoon : 5 - 5 < 2000 := Nat.zero_lt_succ _
    exact ⟨le_refl 5, hsoon⟩
  have harrivals : (frames.map (SinkOperation.takeFrame 5)).map SinkOperation.arrival?
      = (frames.map (Arrival.mk 5)).map some := by
    rw [List.map_map, List.map_map]
    rfl
  obtain ⟨record, hrecord⟩ := hshown DataSink.newSink _ _ harrivals hcarries hundisturbed
  exact ⟨reachable_reportingBench, hdevice, by decide +kernel, frames, record, Option.some.inj hcount, hrecord⟩

end CaptureModule

end CaptureProtocol
