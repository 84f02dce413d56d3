import CaptureProtocol.StatusBoard
import Mathlib

/-!
# What a board shows

A board keeps records by identifier, and so does the record of a module.  A report replaces one record and leaves the
others.

* `find?_replaced`, `filter_replaced` — lists of records of which those with one identifier are replaced;
* `DeviceRecord.interface?_report`, `DeviceRecord.reportAll` — reports of interfaces to the record of their module;
* `StatusBoard.device?_modify`, `StatusBoard.device?_reportModule` — changes of a board;
* `StatusBoard.processAll` — packets, one after the other; `processAll_records`: reports of the interfaces of one known
  module.
-/

namespace CaptureProtocol

/-! ### Records by identifier -/

section

variable {α κ : Type} [DecidableEq κ] {key : α → κ} {replaced wanted : κ} {change : α → α}

/-- Looking for an identifier finds the changed record where the record was changed, and the old one elsewhere. -/
theorem find?_replaced (hkey : ∀ entry, key entry = replaced → key (change entry) = replaced) (list : List α) :
    (list.map fun entry => if key entry = replaced then change entry else entry).find? (key · == wanted)
      = if wanted = replaced then (list.find? (key · == wanted)).map change else list.find? (key · == wanted) := by
  induction list with
  | nil => exact (ite_self none).symm
  | cons entry list ih =>
    rw [List.map_cons, List.find?_cons, List.find?_cons]
    by_cases hentry : key entry = replaced
    · rw [if_pos hentry, hkey entry hentry, hentry]
      by_cases hwanted : wanted = replaced
      · rw [if_pos hwanted, beq_iff_eq.mpr hwanted.symm]
        rfl
      · rw [if_neg hwanted, beq_false_of_ne (Ne.symm hwanted)]
        rw [if_neg hwanted] at ih
        exact ih
    · rw [if_neg hentry]
      by_cases hfound : key entry = wanted
      · rw [if_neg (fun hsame => hentry (hfound.trans hsame)), beq_iff_eq.mpr hfound]
      · rw [beq_false_of_ne hfound]
        exact ih

/-- Records that are not replaced stay, in their order. -/
theorem filter_replaced (hkey : ∀ entry, key entry = replaced → key (change entry) = replaced) {keep : κ → Bool}
    (hkeep : keep replaced = false) (list : List α) :
    (list.map fun entry => if key entry = replaced then change entry else entry).filter (keep ∘ key)
      = list.filter (keep ∘ key) := by
  induction list with
  | nil => rfl
  | cons entry list ih =>
    rw [List.map_cons]
    by_cases hentry : key entry = replaced
    · have hold : ¬ (keep ∘ key) entry = true := by rw [Function.comp_apply, hentry, hkeep]; exact Bool.false_ne_true
      have hnew : ¬ (keep ∘ key) (change entry) = true := by
        rw [Function.comp_apply, hkey entry hentry, hkeep]
        exact Bool.false_ne_true
      rw [if_pos hentry, List.filter_cons_of_neg hnew, List.filter_cons_of_neg hold, ih]
    · rw [if_neg hentry, List.filter_cons, List.filter_cons, ih]

end

/-! ### The record of a module -/

namespace DeviceRecord

variable {device : DeviceRecord} {record : InterfaceRecord} {records : List InterfaceRecord}

/-- The record of a module after reports of its interfaces. -/
def reportAll (device : DeviceRecord) (records : List InterfaceRecord) : DeviceRecord := records.foldl report device

/-- A report of an interface changes nothing else that is known of the module. -/
theorem report_eq (device : DeviceRecord) (record : InterfaceRecord) :
    device.report record = { device with interfaces := (device.report record).interfaces } := by
  rw [report]
  split <;> rfl

/-- A report is found under its interface, and every other record as before. -/
theorem interface?_report (device : DeviceRecord) (record : InterfaceRecord) (id : UInt32) :
    (device.report record).interface? id
      = if id = record.interfaceId then some record else device.interface? id := by
  rw [report]
  split
  · rename_i hknown
    refine (find?_replaced ?_ device.interfaces).trans ?_
    · exact fun _ _ => rfl
    by_cases hid : id = record.interfaceId
    · obtain ⟨old, hold⟩ := Option.isSome_iff_exists.mp hknown
      rw [if_pos hid, if_pos hid, hid]
      exact congrArg (Option.map fun _ => record) hold
    · rw [if_neg hid, if_neg hid]
      rfl
  · rename_i hnew
    rw [interface?, List.find?_append]
    by_cases hid : id = record.interfaceId
    · have hnone : device.interfaces.find? (·.interfaceId == id) = none := by
        rw [hid]
        exact Option.not_isSome_iff_eq_none.mp hnew
      rw [if_pos hid, hnone, List.find?_cons, beq_iff_eq.mpr hid.symm]
      rfl
    · rw [if_neg hid, List.find?_cons, beq_false_of_ne (Ne.symm hid)]
      exact Option.or_none

theorem filter_report (device : DeviceRecord) (keep : UInt32 → Bool) (hkeep : keep record.interfaceId = false) :
    (device.report record).interfaces.filter (keep ∘ InterfaceRecord.interfaceId)
      = device.interfaces.filter (keep ∘ InterfaceRecord.interfaceId) := by
  rw [report]
  split
  · exact filter_replaced (fun _ _ => rfl) hkeep device.interfaces
  · rw [List.filter_append, List.filter_cons_of_neg (by simpa using hkeep)]
    exact List.append_nil _

theorem reportAll_eq (device : DeviceRecord) (records : List InterfaceRecord) :
    device.reportAll records = { device with interfaces := (device.reportAll records).interfaces } := by
  induction records generalizing device with
  | nil => rfl
  | cons record records ih =>
    rw [reportAll, List.foldl_cons]
    refine (ih (device.report record)).trans ?_
    rw [report_eq device record]
    rfl

theorem interface?_reportAll_of_notMem (device : DeviceRecord) {id : UInt32}
    (h : id ∉ records.map InterfaceRecord.interfaceId) :
    (device.reportAll records).interface? id = device.interface? id := by
  induction records generalizing device with
  | nil => rfl
  | cons record records ih =>
    rw [List.map_cons, List.mem_cons, not_or] at h
    rw [reportAll, List.foldl_cons]
    refine (ih (device.report record) h.2).trans ?_
    rw [interface?_report, if_neg h.1]

/-- Of reports of different interfaces each is found afterwards. -/
theorem interface?_reportAll (device : DeviceRecord) (hnodup : (records.map InterfaceRecord.interfaceId).Nodup)
    (hrecord : record ∈ records) : (device.reportAll records).interface? record.interfaceId = some record := by
  induction records generalizing device with
  | nil => exact (List.not_mem_nil hrecord).elim
  | cons head records ih =>
    obtain ⟨hnot, hrest⟩ := List.nodup_cons.mp hnodup
    rw [reportAll, List.foldl_cons]
    rcases List.mem_cons.mp hrecord with rfl | hlater
    · refine (interface?_reportAll_of_notMem (device.report record) hnot).trans ?_
      rw [interface?_report, if_pos rfl]
    · exact ih (device.report head) hrest hlater

theorem filter_reportAll (device : DeviceRecord) (keep : UInt32 → Bool)
    (hkeep : ∀ record ∈ records, keep record.interfaceId = false) :
    (device.reportAll records).interfaces.filter (keep ∘ InterfaceRecord.interfaceId)
      = device.interfaces.filter (keep ∘ InterfaceRecord.interfaceId) := by
  induction records generalizing device with
  | nil => rfl
  | cons record records ih =>
    obtain ⟨hfirst, hrest⟩ := List.forall_mem_cons.mp hkeep
    exact (ih (device.report record) hrest).trans (filter_report device keep hfirst)

end DeviceRecord

/-! ### Boards -/

/-- The record that a report of an interface makes. -/
def Packet.record? (packet : Packet) : Option InterfaceRecord :=
  match packet.payload with
  | .interfaceStatus status => some ⟨status.interfaceId, packet.timestamp, status⟩
  | _ => none

namespace StatusBoard

variable {board : StatusBoard} {deviceId other : UInt16} {change : DeviceRecord → DeviceRecord} {device : DeviceRecord}
  {packet : Packet} {packets : List Packet}

/-- The board after packets, one after the other. -/
def processAll (board : StatusBoard) (packets : List Packet) : StatusBoard :=
  packets.foldl (fun board packet => (board.process packet).1) board

theorem deviceId_of_device? (h : board.device? deviceId = some device) : device.deviceId = deviceId := by
  have hfound := List.find?_some h
  exact beq_iff_eq.mp hfound

theorem device?_modify (hchange : ∀ device, device.deviceId = deviceId → (change device).deviceId = deviceId)
    (board : StatusBoard) (other : UInt16) :
    (board.modify deviceId change).device? other
      = if other = deviceId then (board.device? other).map change else board.device? other :=
  find?_replaced hchange board.devices

theorem filter_modify (hchange : ∀ device, device.deviceId = deviceId → (change device).deviceId = deviceId)
    (board : StatusBoard) (keep : UInt16 → Bool) (hkeep : keep deviceId = false) :
    (board.modify deviceId change).devices.filter (keep ∘ DeviceRecord.deviceId)
      = board.devices.filter (keep ∘ DeviceRecord.deviceId) :=
  filter_replaced hchange hkeep board.devices

/-- The report of a module is found under the module, which keeps the records of its interfaces. -/
theorem device?_reportModule (board : StatusBoard) (deviceId : UInt16) (timestamp : UInt64) (status : ModuleStatus) :
    (board.reportModule deviceId timestamp status).device? deviceId
      = some ⟨deviceId, timestamp, status, ((board.device? deviceId).map DeviceRecord.interfaces).getD []⟩ := by
  rw [reportModule]
  split
  · rename_i hknown
    obtain ⟨device, hdevice⟩ := Option.isSome_iff_exists.mp hknown
    refine (device?_modify ?_ board deviceId).trans ?_
    · exact fun _ hsame => hsame
    · rw [if_pos rfl, hdevice, Option.map_some, deviceId_of_device? hdevice]
      rfl
  · rename_i hnew
    have hnone : board.device? deviceId = none := Option.not_isSome_iff_eq_none.mp hnew
    rw [hnone, device?, List.find?_append]
    rw [device?] at hnone
    rw [hnone, List.find?_cons, beq_iff_eq.mpr rfl]
    rfl

theorem filter_reportModule (board : StatusBoard) (timestamp : UInt64) (status : ModuleStatus) (keep : UInt16 → Bool)
    (hkeep : keep deviceId = false) :
    (board.reportModule deviceId timestamp status).devices.filter (keep ∘ DeviceRecord.deviceId)
      = board.devices.filter (keep ∘ DeviceRecord.deviceId) := by
  rw [reportModule]
  split
  · refine filter_modify ?_ board keep hkeep
    exact fun _ hsame => hsame
  · rw [List.filter_append, List.filter_cons_of_neg (by simpa using hkeep)]
    exact List.append_nil _

/-- A report of an interface of a known module. -/
theorem process_record {record : InterfaceRecord} (hdevice : board.device? packet.deviceId = some device)
    (hrecord : packet.record? = some record) :
    (board.process packet).1 = board.modify packet.deviceId (·.report record) := by
  rw [Packet.record?] at hrecord
  rw [process]
  cases hpayload : packet.payload with
  | interfaceStatus status =>
    rw [hpayload, Option.some.injEq] at hrecord
    rw [hdevice, ← hrecord]
    rfl
  | _ =>
    rw [hpayload] at hrecord
    cases hrecord

/-- Reports of the interfaces of one known module are put into its record, and leave those of other modules. -/
theorem processAll_records (hdevice : board.device? deviceId = some device)
    (hpackets : ∀ packet ∈ packets, packet.deviceId = deviceId ∧ packet.record?.isSome = true) :
    (board.processAll packets).device? deviceId = some (device.reportAll (packets.filterMap Packet.record?))
      ∧ ∀ keep : UInt16 → Bool, keep deviceId = false →
        (board.processAll packets).devices.filter (keep ∘ DeviceRecord.deviceId)
          = board.devices.filter (keep ∘ DeviceRecord.deviceId) := by
  induction packets generalizing board device with
  | nil => exact ⟨hdevice, fun _ _ => rfl⟩
  | cons packet packets ih =>
    obtain ⟨⟨hfrom, hsome⟩, hrest⟩ := List.forall_mem_cons.mp hpackets
    obtain ⟨record, hrecord⟩ := Option.isSome_iff_exists.mp hsome
    subst hfrom
    have hkeep : ∀ device : DeviceRecord, device.deviceId = packet.deviceId →
        (device.report record).deviceId = packet.deviceId := by
      intro device hdevice
      rw [DeviceRecord.report_eq]
      exact hdevice
    have hlater : (board.modify packet.deviceId (·.report record)).device? packet.deviceId
        = some (device.report record) := by
      rw [device?_modify hkeep, if_pos rfl, hdevice]
      rfl
    rw [processAll, List.foldl_cons, process_record hdevice hrecord, List.filterMap_cons_some hrecord]
    obtain ⟨hfound, hothers⟩ := ih hlater hrest
    refine ⟨hfound, ?_⟩
    intro keep hnot
    exact (hothers keep hnot).trans (filter_modify hkeep board keep hnot)

end StatusBoard

end CaptureProtocol
