import CaptureProtocol.Proofs.Boards
import Mathlib

/-!
# What a board has to show after a history

The reports that a board has taken fix all that it shows: which modules, in which order, with which last reports.

* `eraseDups_concat`, `nodup_eraseDups` — identifiers in the order of their first appearance;
* `InterfaceRecord.lastOfEach` — the last record of each interface; `DeviceRecord.report_lastOfEach`: a report is one
  more record;
* `Packet.moduleReport?`, `interfaceReports` — the reports among the packets of one module;
* `DeviceRecord.ofReports?` — the record that the packets of one module make;
* `StatusBoard.device?_processAll`, `StatusBoard.map_deviceId_processAll` — the records of a board and their order;
* `BoardOperation`, `sinceClear` — a board that is cleared from time to time; `StatusBoard.performAll_history`.
-/

namespace CaptureProtocol

/-! ### The order of first appearance -/

section

variable {α : Type} [BEq α] [LawfulBEq α] {list : List α} {entry : α}

/-- One more entry counts only when it is new. -/
theorem eraseDups_concat (list : List α) (entry : α) [Decidable (entry ∈ list)] :
    (list ++ [entry]).eraseDups = if entry ∈ list then list.eraseDups else list.eraseDups ++ [entry] := by
  rw [List.eraseDups_append, List.removeAll, List.filter_singleton]
  by_cases hmem : entry ∈ list
  · simp [hmem]
  · simp [hmem, List.eraseDups_cons]

theorem nodup_eraseDups (list : List α) : list.eraseDups.Nodup := by
  classical
  induction list using List.reverseRecOn with
  | nil => exact List.nodup_nil
  | append_singleton list entry ih =>
    rw [eraseDups_concat]
    split
    · exact ih
    · rename_i hnew
      refine ih.append (List.nodup_singleton _) (List.disjoint_singleton.mpr ?_)
      rwa [List.mem_eraseDups]

end

/-! ### Records of interfaces -/

namespace InterfaceRecord

variable {records : List InterfaceRecord} {record : InterfaceRecord} {id : UInt32}

/-- The last record of an interface. -/
def last? (records : List InterfaceRecord) (id : UInt32) : Option InterfaceRecord :=
  (records.filter (·.interfaceId == id)).getLast?

/-- The last record of each interface, in the order of the first records. -/
def lastOfEach (records : List InterfaceRecord) : List InterfaceRecord :=
  (records.map interfaceId).eraseDups.filterMap (last? records)

theorem last?_concat (records : List InterfaceRecord) (record : InterfaceRecord) (id : UInt32) :
    last? (records ++ [record]) id = if id = record.interfaceId then some record else last? records id := by
  rw [last?, List.filter_append, List.filter_singleton]
  by_cases hid : id = record.interfaceId
  · rw [if_pos hid, beq_iff_eq.mpr hid.symm, cond_true, List.getLast?_concat]
  · rw [if_neg hid, beq_false_of_ne (Ne.symm hid), cond_false, List.append_nil]
    rfl

theorem interfaceId_of_last? (h : last? records id = some record) : record.interfaceId = id :=
  beq_iff_eq.mp (List.mem_filter.mp (List.mem_of_getLast? h)).2

theorem exists_last? (h : id ∈ (records.map interfaceId).eraseDups) : ∃ record, last? records id = some record := by
  obtain ⟨record, hrecord, rfl⟩ := List.mem_map.mp (List.mem_eraseDups.mp h)
  refine Option.ne_none_iff_exists'.mp fun hnone => ?_
  rw [last?, List.getLast?_eq_none_iff, List.filter_eq_nil_iff] at hnone
  exact hnone record hrecord (beq_iff_eq.mpr rfl)

theorem map_interfaceId_lastOfEach (records : List InterfaceRecord) :
    (lastOfEach records).map interfaceId = (records.map interfaceId).eraseDups := by
  rw [lastOfEach, List.map_filterMap]
  have hsome : ∀ id ∈ (records.map interfaceId).eraseDups,
      (last? records id).map interfaceId = some id := by
    intro id hid
    obtain ⟨record, hrecord⟩ := exists_last? hid
    rw [hrecord, Option.map_some, interfaceId_of_last? hrecord]
  rw [List.filterMap_congr hsome, List.filterMap_some]

theorem last?_of_mem_lastOfEach (h : record ∈ lastOfEach records) :
    last? records record.interfaceId = some record := by
  obtain ⟨id, -, hlast⟩ := List.mem_filterMap.mp h
  rw [interfaceId_of_last? hlast]
  exact hlast

end InterfaceRecord

namespace DeviceRecord

open InterfaceRecord (lastOfEach last?)

variable {device : DeviceRecord} {records : List InterfaceRecord}

theorem isSome_interface?_iff {id : UInt32} :
    (device.interface? id).isSome = true ↔ id ∈ device.interfaces.map InterfaceRecord.interfaceId := by
  rw [interface?, List.find?_isSome, List.mem_map]
  exact exists_congr fun record => and_congr_right fun _ => beq_iff_eq

theorem deviceId_report (device : DeviceRecord) (record : InterfaceRecord) :
    (device.report record).deviceId = device.deviceId := by
  rw [report_eq]

/-- A report to a module whose record shows the last records of its interfaces is one more record. -/
theorem report_lastOfEach (h : device.interfaces = lastOfEach records) (record : InterfaceRecord) :
    (device.report record).interfaces = lastOfEach (records ++ [record]) := by
  have hknown : (device.interface? record.interfaceId).isSome = true
      ↔ record.interfaceId ∈ records.map InterfaceRecord.interfaceId := by
    rw [isSome_interface?_iff, h, InterfaceRecord.map_interfaceId_lastOfEach, List.mem_eraseDups]
  have hlast : last? (records ++ [record])
      = fun id => if id = record.interfaceId then some record else last? records id :=
    funext (InterfaceRecord.last?_concat records record)
  rw [report, lastOfEach, List.map_append, List.map_singleton, eraseDups_concat, hlast]
  split
  · rename_i hold
    -- the record takes the place of the old one
    rw [if_pos (hknown.mp hold), h, lastOfEach, List.map_filterMap]
    refine List.filterMap_congr fun id hid => ?_
    obtain ⟨old, hfound⟩ := InterfaceRecord.exists_last? hid
    rw [hfound, Option.map_some, InterfaceRecord.interfaceId_of_last? hfound]
    split <;> rfl
  · rename_i hnew
    have hkept : ∀ id ∈ (records.map InterfaceRecord.interfaceId).eraseDups,
        (if id = record.interfaceId then some record else last? records id) = last? records id := by
      intro id hid
      refine if_neg ?_
      rintro rfl
      exact hnew (hknown.mpr (List.mem_eraseDups.mp hid))
    rw [if_neg (mt hknown.mpr hnew), List.filterMap_append, List.filterMap_congr hkept, h]
    simp [lastOfEach]

end DeviceRecord

/-! ### The reports of one module -/

/-- The report of a module that a packet holds, with its time. -/
def Packet.moduleReport? (packet : Packet) : Option (UInt64 × ModuleStatus) :=
  match packet.payload with
  | .captureModuleStatus status => some (packet.timestamp, status)
  | _ => none

/-- The reports of interfaces after the first report of their module. -/
def interfaceReports (packets : List Packet) : List InterfaceRecord :=
  (packets.dropWhile (·.moduleReport?.isNone)).filterMap Packet.record?

/-- The record that the packets of a module make: its last report, with the last reports of its interfaces. -/
def DeviceRecord.ofReports? (deviceId : UInt16) (packets : List Packet) : Option DeviceRecord :=
  (packets.filterMap Packet.moduleReport?).getLast?.map fun (timestamp, status) =>
    ⟨deviceId, timestamp, status, InterfaceRecord.lastOfEach (interfaceReports packets)⟩

section

variable {packet : Packet} {packets : List Packet} {deviceId : UInt16}

theorem Packet.record?_of_moduleReport? (h : packet.moduleReport?.isSome = true) : packet.record? = none := by
  rw [moduleReport?] at h
  rw [record?]
  split at h
  · rename_i status hpayload
    rw [hpayload]
  · cases h

theorem interfaceReports_concat (packets : List Packet) (packet : Packet) :
    interfaceReports (packets ++ [packet])
      = interfaceReports packets
        ++ if packets.filterMap Packet.moduleReport? = [] then [] else packet.record?.toList := by
  have hnone : packets.dropWhile (·.moduleReport?.isNone) = [] ↔ packets.filterMap Packet.moduleReport? = [] := by
    rw [List.dropWhile_eq_nil_iff, List.filterMap_eq_nil_iff]
    exact forall₂_congr fun _ _ => Option.isNone_iff_eq_none
  rw [interfaceReports, interfaceReports, List.dropWhile_append]
  by_cases hempty : packets.filterMap Packet.moduleReport? = []
  · rw [if_pos hempty, hnone.mpr hempty, List.append_nil, List.isEmpty_nil, if_pos rfl]
    cases hreport : packet.moduleReport? with
    | none => simp [hreport]
    | some report => simp [hreport, Packet.record?_of_moduleReport?]
  · rw [if_neg hempty, if_neg (mt (fun h => hnone.mp (List.isEmpty_iff.mp h)) hempty), List.filterMap_append]
    cases hrecord : packet.record? <;> simp [hrecord]

/-- A packet that reports no module is one more report of an interface, when it is one. -/
theorem DeviceRecord.ofReports?_concat_of_none (hreport : packet.moduleReport? = none) :
    ofReports? deviceId (packets ++ [packet])
      = match packet.record? with
        | some record => (ofReports? deviceId packets).map (·.report record)
        | none => ofReports? deviceId packets := by
  rw [ofReports?, ofReports?, List.filterMap_append, List.filterMap_cons_none hreport, List.filterMap_nil,
    List.append_nil, interfaceReports_concat]
  cases hlast : (packets.filterMap Packet.moduleReport?).getLast? with
  | none => cases packet.record? <;> rfl
  | some last =>
    obtain ⟨timestamp, status⟩ := last
    have hne : packets.filterMap Packet.moduleReport? ≠ [] := fun hempty => by
      rw [hempty] at hlast
      cases hlast
    rw [if_neg hne]
    cases packet.record? with
    | none => rw [Option.toList_none, List.append_nil]
    | some record =>
      refine congrArg some ?_
      dsimp only
      rw [report_eq, report_lastOfEach rfl]
      rfl

/-- The report of a module takes the place of its last one. -/
theorem DeviceRecord.ofReports?_concat_of_some {timestamp : UInt64} {status : ModuleStatus}
    (hreport : packet.moduleReport? = some (timestamp, status)) :
    ofReports? deviceId (packets ++ [packet])
      = some ⟨deviceId, timestamp, status, ((ofReports? deviceId packets).map DeviceRecord.interfaces).getD []⟩ := by
  have hrecord : packet.record? = none := Packet.record?_of_moduleReport? (by rw [hreport]; rfl)
  rw [ofReports?, ofReports?, List.filterMap_append, List.filterMap_cons_some hreport, List.filterMap_nil,
    List.getLast?_concat, interfaceReports_concat, hrecord, Option.toList_none, ite_self, List.append_nil,
    Option.map_some]
  cases hlast : (packets.filterMap Packet.moduleReport?).getLast? with
  | some report => rfl
  | none =>
    -- no module, and so no report of an interface that counts
    rw [List.getLast?_eq_none_iff, List.filterMap_eq_nil_iff] at hlast
    have hnone : packets.dropWhile (·.moduleReport?.isNone) = [] :=
      List.dropWhile_eq_nil_iff.mpr fun packet hpacket => Option.isNone_iff_eq_none.mpr (hlast packet hpacket)
    rw [interfaceReports, hnone]
    rfl

end

/-! ### Boards -/

/-- What is done to a board. -/
inductive BoardOperation where
  | process (packet : Packet)
  | clear

/-- The packets that were processed since the board was cleared. -/
def sinceClear (operations : List BoardOperation) : List Packet :=
  operations.foldl
    (fun packets operation =>
      match operation with
      | .process packet => packets ++ [packet]
      | .clear => [])
    []

namespace StatusBoard

variable {board : StatusBoard} {packet : Packet} {packets : List Packet} {deviceId : UInt16}

/-- The board after an operation. -/
def perform (board : StatusBoard) : BoardOperation → StatusBoard
  | .process packet => (board.process packet).1
  | .clear => board.clear

/-- The board after operations, one after the other. -/
def performAll (board : StatusBoard) (operations : List BoardOperation) : StatusBoard :=
  operations.foldl perform board

theorem isSome_device?_iff :
    (board.device? deviceId).isSome = true ↔ deviceId ∈ board.devices.map DeviceRecord.deviceId := by
  rw [device?, List.find?_isSome, List.mem_map]
  exact exists_congr fun device => and_congr_right fun _ => beq_iff_eq

/-- What a packet does, by what it reports. -/
theorem process_cases (board : StatusBoard) (packet : Packet) :
    (∃ timestamp status, packet.moduleReport? = some (timestamp, status)
        ∧ board.process packet = (board.reportModule packet.deviceId timestamp status, true))
      ∨ (∃ record, packet.moduleReport? = none ∧ packet.record? = some record
        ∧ board.process packet
          = if (board.device? packet.deviceId).isSome then
              (board.modify packet.deviceId (·.report record), true)
            else (board, false))
      ∨ (packet.moduleReport? = none ∧ packet.record? = none ∧ board.process packet = (board, false)) := by
  rw [Packet.moduleReport?, Packet.record?, process]
  cases packet.payload with
  | captureModuleStatus status => exact .inl ⟨packet.timestamp, status, rfl, rfl⟩
  | interfaceStatus status => exact .inr (.inl ⟨_, rfl, rfl, rfl⟩)
  | can | canFd | analog | undefined => exact .inr (.inr ⟨rfl, rfl, rfl⟩)

theorem map_deviceId_modify {change : DeviceRecord → DeviceRecord}
    (hchange : ∀ device : DeviceRecord, (change device).deviceId = device.deviceId) (board : StatusBoard)
    (deviceId : UInt16) :
    (board.modify deviceId change).devices.map DeviceRecord.deviceId = board.devices.map DeviceRecord.deviceId := by
  rw [modify, List.map_map]
  refine List.map_congr_left fun device _ => ?_
  rw [Function.comp_apply]
  split
  · exact hchange device
  · rfl

/-- Modules are listed in the order of their first reports. -/
theorem map_deviceId_process (board : StatusBoard) (packet : Packet) :
    (board.process packet).1.devices.map DeviceRecord.deviceId
      = if packet.moduleReport?.isSome = true ∧ packet.deviceId ∉ board.devices.map DeviceRecord.deviceId then
          board.devices.map DeviceRecord.deviceId ++ [packet.deviceId]
        else board.devices.map DeviceRecord.deviceId := by
  rcases board.process_cases packet with ⟨timestamp, status, hreport, hprocess⟩ | ⟨record, hreport, -, hprocess⟩
    | ⟨hreport, -, hprocess⟩
  · rw [hprocess, hreport, reportModule]
    by_cases hknown : packet.deviceId ∈ board.devices.map DeviceRecord.deviceId
    · rw [if_pos (isSome_device?_iff.mpr hknown), if_neg (fun h => h.2 hknown), map_deviceId_modify]
      exact fun _ => rfl
    · rw [if_neg (mt isSome_device?_iff.mp hknown), if_pos ⟨rfl, hknown⟩, List.map_append]
      rfl
  · have hnone : ¬ ((none : Option (UInt64 × ModuleStatus)).isSome = true
        ∧ packet.deviceId ∉ board.devices.map DeviceRecord.deviceId) := fun h => Bool.false_ne_true h.1
    rw [hprocess, hreport, if_neg hnone]
    split
    · exact map_deviceId_modify (fun device => device.deviceId_report record) board packet.deviceId
    · rfl
  · rw [hprocess, hreport, if_neg (fun h => Bool.false_ne_true h.1)]

/-- A packet does nothing to the record of another module. -/
theorem device?_process_of_ne (h : deviceId ≠ packet.deviceId) :
    (board.process packet).1.device? deviceId = board.device? deviceId := by
  have hkeep : (packet.deviceId == deviceId) = false := beq_false_of_ne (Ne.symm h)
  have hfound : ∀ board : StatusBoard,
      board.device? deviceId = (board.devices.filter ((· == deviceId) ∘ DeviceRecord.deviceId)).head? :=
    fun board => List.head?_filter.symm
  rcases board.process_cases packet with ⟨timestamp, status, -, hprocess⟩ | ⟨record, -, -, hprocess⟩ | ⟨-, -, hprocess⟩
  · rw [hprocess, hfound, hfound board, filter_reportModule board timestamp status (· == deviceId) hkeep]
  · rw [hprocess]
    split
    · rw [hfound, hfound board]
      refine congrArg List.head? (filter_modify ?_ board (· == deviceId) hkeep)
      exact fun device hdevice => (device.deviceId_report record).trans hdevice
    · rfl
  · rw [hprocess]

/-- What a packet does to the record of its module is what one more packet does to the reports of the module. -/
theorem device?_process (h : board.device? packet.deviceId = DeviceRecord.ofReports? packet.deviceId packets) :
    (board.process packet).1.device? packet.deviceId
      = DeviceRecord.ofReports? packet.deviceId (packets ++ [packet]) := by
  rcases board.process_cases packet with ⟨timestamp, status, hreport, hprocess⟩ | ⟨record, hreport, hrecord, hprocess⟩
    | ⟨hreport, hrecord, hprocess⟩
  · rw [hprocess, DeviceRecord.ofReports?_concat_of_some hreport, ← h]
    exact device?_reportModule board packet.deviceId timestamp status
  · rw [hprocess, DeviceRecord.ofReports?_concat_of_none hreport, hrecord, ← h]
    cases hdevice : board.device? packet.deviceId with
    | none => exact hdevice
    | some device =>
      refine (device?_modify ?_ board packet.deviceId).trans ?_
      · exact fun device hdevice => (device.deviceId_report record).trans hdevice
      · rw [if_pos rfl, hdevice]
  · rw [hprocess, DeviceRecord.ofReports?_concat_of_none hreport, hrecord]
    exact h

theorem processAll_concat (board : StatusBoard) (packets : List Packet) (packet : Packet) :
    board.processAll (packets ++ [packet]) = ((board.processAll packets).process packet).1 := List.foldl_concat ..

/-- The record of a module is the one that its own packets make. -/
theorem device?_processAll (packets : List Packet) (deviceId : UInt16) :
    (({} : StatusBoard).processAll packets).device? deviceId
      = DeviceRecord.ofReports? deviceId (packets.filter (·.deviceId == deviceId)) := by
  induction packets using List.reverseRecOn with
  | nil => rfl
  | append_singleton packets packet ih =>
    rw [processAll_concat, List.filter_append, List.filter_singleton]
    by_cases hid : deviceId = packet.deviceId
    · subst hid
      rw [beq_iff_eq.mpr rfl, cond_true]
      exact device?_process ih
    · rw [device?_process_of_ne hid, beq_false_of_ne (Ne.symm hid), cond_false, List.append_nil]
      exact ih

/-- The modules of a board, in the order of their first reports. -/
theorem map_deviceId_processAll (packets : List Packet) :
    (({} : StatusBoard).processAll packets).devices.map DeviceRecord.deviceId
      = ((packets.filter (·.moduleReport?.isSome)).map Packet.deviceId).eraseDups := by
  induction packets using List.reverseRecOn with
  | nil => rfl
  | append_singleton packets packet ih =>
    rw [processAll_concat, map_deviceId_process, ih, List.filter_append, List.filter_singleton]
    cases hreport : packet.moduleReport?.isSome with
    | false => rw [if_neg (fun h => Bool.false_ne_true h.1), cond_false, List.append_nil]
    | true =>
      rw [cond_true, List.map_append, List.map_singleton, eraseDups_concat]
      by_cases hknown : packet.deviceId ∈ (packets.filter (·.moduleReport?.isSome)).map Packet.deviceId
      · rw [if_neg (fun h => h.2 (List.mem_eraseDups.mpr hknown)), if_pos hknown]
      · rw [if_pos ⟨rfl, mt List.mem_eraseDups.mp hknown⟩, if_neg hknown]

theorem performAll_eq (operations : List BoardOperation) :
    ({} : StatusBoard).performAll operations = ({} : StatusBoard).processAll (sinceClear operations) := by
  induction operations using List.reverseRecOn with
  | nil => rfl
  | append_singleton operations operation ih =>
    rw [performAll, List.foldl_concat, ← performAll, ih]
    cases operation with
    | process packet =>
      have hpackets : sinceClear (operations ++ [.process packet]) = sinceClear operations ++ [packet] :=
        List.foldl_concat ..
      rw [hpackets, processAll_concat]
      rfl
    | clear =>
      have hpackets : sinceClear (operations ++ [.clear]) = [] := List.foldl_concat ..
      rw [hpackets]
      rfl

/-- A module that is listed is found. -/
theorem device?_of_mem {device : DeviceRecord} (hnodup : (board.devices.map DeviceRecord.deviceId).Nodup)
    (hmem : device ∈ board.devices) : board.device? device.deviceId = some device := by
  obtain ⟨found, hfound⟩ := Option.isSome_iff_exists.mp
    (isSome_device?_iff.mpr (List.mem_map_of_mem hmem) : (board.device? device.deviceId).isSome = true)
  rw [hfound, List.inj_on_of_nodup_map hnodup (List.mem_of_find?_eq_some hfound) hmem (deviceId_of_device? hfound)]

/-- Which packets are refused. -/
theorem process_refused_iff (board : StatusBoard) (packet : Packet) :
    (board.process packet).2 = false
      ↔ (packet.record?.isSome = true ∧ board.device? packet.deviceId = none)
        ∨ (packet.moduleReport? = none ∧ packet.record? = none) := by
  rcases board.process_cases packet with ⟨timestamp, status, hreport, hprocess⟩ | ⟨record, hreport, hrecord, hprocess⟩
    | ⟨hreport, hrecord, hprocess⟩
  · rw [hprocess, Packet.record?_of_moduleReport? (by rw [hreport]; rfl), hreport]
    simp
  · rw [hprocess, hreport, hrecord]
    cases board.device? packet.deviceId <;> simp
  · rw [hprocess, hreport, hrecord]
    simp

theorem process_of_refused (h : (board.process packet).2 = false) : (board.process packet).1 = board := by
  rcases board.process_cases packet with ⟨timestamp, status, -, hprocess⟩ | ⟨record, -, -, hprocess⟩ | ⟨-, -, hprocess⟩
  · rw [hprocess] at h
    cases h
  · rw [hprocess] at h ⊢
    split at h
    · cases h
    · rename_i hnone
      rw [if_neg hnone]
  · rw [hprocess]

/-- A board shows what was reported since it was cleared.  The modules stand in the order of their first reports, each
with its last report; their interfaces stand in the order of their first reports after the first report of the module,
each with its last report.  A packet is refused when it reports nothing, or an interface of a module that has not
reported, and then changes nothing; and the record of a module comes from its own packets. -/
theorem performAll_history (operations : List BoardOperation) :
    let board := ({} : StatusBoard).performAll operations
    let packets := sinceClear operations
    let own := fun deviceId => packets.filter (·.deviceId == deviceId)
    board.devices.map DeviceRecord.deviceId
        = ((packets.filter (·.moduleReport?.isSome)).map Packet.deviceId).eraseDups
      ∧ (board.devices.map DeviceRecord.deviceId).Nodup
      ∧ (∀ deviceId, (board.device? deviceId).isSome = true
        ↔ ∃ packet ∈ packets, packet.deviceId = deviceId ∧ packet.moduleReport?.isSome = true)
      ∧ (∀ device ∈ board.devices,
        ((own device.deviceId).filterMap Packet.moduleReport?).getLast? = some (device.timestamp, device.status)
          ∧ device.interfaces.map InterfaceRecord.interfaceId
            = ((interfaceReports (own device.deviceId)).map InterfaceRecord.interfaceId).eraseDups
          ∧ (device.interfaces.map InterfaceRecord.interfaceId).Nodup
          ∧ ∀ record ∈ device.interfaces,
            ((interfaceReports (own device.deviceId)).filter (·.interfaceId == record.interfaceId)).getLast?
              = some record)
      ∧ (∀ packet, (board.process packet).2 = false
        ↔ (packet.record?.isSome = true ∧ board.device? packet.deviceId = none)
          ∨ (packet.moduleReport? = none ∧ packet.record? = none))
      ∧ (∀ packet, (board.process packet).2 = false → (board.process packet).1 = board)
      ∧ ∀ deviceId, board.device? deviceId = (({} : StatusBoard).processAll (own deviceId)).device? deviceId := by
  intro board packets own
  have hboard : board = ({} : StatusBoard).processAll packets := performAll_eq operations
  have horder : board.devices.map DeviceRecord.deviceId
      = ((packets.filter (·.moduleReport?.isSome)).map Packet.deviceId).eraseDups := by
    rw [hboard, map_deviceId_processAll]
  have hnodup : (board.devices.map DeviceRecord.deviceId).Nodup := by
    rw [horder]
    exact nodup_eraseDups _
  have hrecord : ∀ deviceId, board.device? deviceId = DeviceRecord.ofReports? deviceId (own deviceId) := by
    intro deviceId
    rw [hboard, device?_processAll]
  refine ⟨horder, hnodup, ?_, ?_, board.process_refused_iff, fun packet => process_of_refused, ?_⟩
  · intro deviceId
    rw [isSome_device?_iff, horder, List.mem_eraseDups, List.mem_map]
    refine exists_congr fun packet => ?_
    rw [List.mem_filter, and_assoc, and_comm (a := packet.moduleReport?.isSome = true)]
  · intro device hdevice
    have hfound := (device?_of_mem hnodup hdevice).symm.trans (hrecord device.deviceId)
    obtain ⟨⟨timestamp, status⟩, hlast, hdevice⟩ := Option.map_eq_some_iff.mp hfound.symm
    have hinterfaces : device.interfaces
        = InterfaceRecord.lastOfEach (interfaceReports (own device.deviceId)) := (congrArg _ hdevice).symm
    refine ⟨hlast.trans ?_, ?_, ?_, ?_⟩
    · rw [← hdevice]
    · rw [hinterfaces, InterfaceRecord.map_interfaceId_lastOfEach]
    · rw [hinterfaces, InterfaceRecord.map_interfaceId_lastOfEach]
      exact nodup_eraseDups _
    · intro record hmem
      rw [hinterfaces] at hmem
      exact InterfaceRecord.last?_of_mem_lastOfEach hmem
  · intro deviceId
    have hown : (own deviceId).filter (·.deviceId == deviceId) = own deviceId :=
      List.filter_eq_self.mpr fun packet hpacket => (List.mem_filter.mp hpacket).2
    rw [hrecord, device?_processAll, hown]

end StatusBoard

end CaptureProtocol
