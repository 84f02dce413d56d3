import CaptureProtocol.Proofs.CaptureBooks
import Mathlib

/-!
# What holds of everything that was ever created

* `CaptureModule.perform_streams` — all that an operation can do to the list of streams: it stays, grows by a new
  stream, or one stream changes;
* `CaptureModule.perform_interfaces` — the same of the list of interfaces, where `InterfaceOperation.update` tells what
  the calls of an update do;
* `CaptureStream.Kept` — what everything but a send keeps of a stream; `Stable` — what the sends of a live stream keep
  as well; `Reachable.forall_stream` — it holds of all streams of a reachable module if it holds of new ones;
* `Reachable.isData_payloadType`, `Reachable.isData_kind` — all streams and interfaces have data types.
-/

namespace CaptureProtocol

theorem exists_of_bind_eq_ok {α β : Type} {first : Except LinkError α} {next : α → Except LinkError β} {value : β}
    (h : (first >>= next) = .ok value) : ∃ found, first = .ok found ∧ next found = .ok value := by
  cases first with
  | error error => cases h
  | ok found => exact ⟨found, rfl, h⟩

namespace CaptureModule

variable {T : Type} {capture after : CaptureModule T} {handle key : Nat}

theorem create_eq_ok {config : LinkConfig} {device : ModuleIdentity} {sender : T}
    (h : create config device sender = .ok capture) :
    capture = { config, resources := .create config device.deviceId sender, device } := by
  rw [create] at h
  cases hvalidate : config.validate with
  | error error =>
    rw [hvalidate] at h
    cases h
  | ok accepted =>
    rw [hvalidate] at h
    exact (Except.ok.inj h).symm

theorem forall_mem_set {α : Type} {list : List α} {good : α → Prop} (h : ∀ value ∈ list, good value) (index : Nat)
    {next : α} (hnext : good next) : ∀ value ∈ list.set index next, good value := by
  intro value hmem
  rcases List.mem_or_eq_of_mem_set hmem with hold | rfl
  · exact h value hold
  · exact hnext

/-! ### Streams -/

theorem isData_of_addInterface {kind : PayloadType} {requested : Option UInt32}
    (h : capture.addInterface kind requested = .ok (handle, after)) : kind.isData = true := by
  rw [addInterface] at h
  cases hdata : kind.isData with
  | false =>
    rw [hdata] at h
    cases h
  | true => rfl

theorem isData_of_addStream {owner : Nat} {payloadType : PayloadType} {requested : Option UInt8}
    (h : capture.addStream owner payloadType requested = .ok (key, after)) : payloadType.isData = true := by
  rw [addStream] at h
  cases hdata : payloadType.isData with
  | false =>
    rw [hdata] at h
    cases h
  | true => rfl

theorem streams_of_addInterface {kind : PayloadType} {requested : Option UInt32}
    (h : capture.addInterface kind requested = .ok (handle, after)) : after.streams = capture.streams := by
  rw [addInterface, isData_of_addInterface h] at h
  cases requested with
  | none =>
    obtain ⟨granted, -, h⟩ := exists_of_bind_eq_ok h
    cases h
    rfl
  | some id =>
    rcases hadd : capture.resources.interfaceIds.add id with ⟨pool, _ | _⟩
    · simp only [hadd] at h
      cases h
    · simp only [hadd] at h
      cases h
      rfl

theorem exists_streams_of_addStream {owner : Nat} {payloadType : PayloadType} {requested : Option UInt8}
    (h : capture.addStream owner payloadType requested = .ok (key, after)) :
    ∃ id, after.streams = capture.streams ++ [{ owner, id, inlet := { payloadType } }] := by
  rw [addStream, isData_of_addStream h] at h
  cases requested with
  | none =>
    obtain ⟨granted, -, h⟩ := exists_of_bind_eq_ok h
    obtain ⟨resources, -, h⟩ := exists_of_bind_eq_ok h
    cases h
    exact ⟨granted.1, rfl⟩
  | some id =>
    rcases hadd : capture.resources.streamIds.add id.toUInt32 with ⟨pool, _ | _⟩
    · simp only [hadd] at h
      cases h
    · simp only [hadd] at h
      obtain ⟨granted, -, h⟩ := exists_of_bind_eq_ok h
      obtain ⟨resources, -, h⟩ := exists_of_bind_eq_ok h
      cases h
      exact ⟨granted.1, rfl⟩

/-- Whatever module it is: the list of streams stays as it is, a new stream is appended, or one stream has changed. -/
theorem perform_streams [FrameSender T] (capture : CaptureModule T) (operation : CaptureOperation T) :
    (capture.perform operation).1.streams = capture.streams
      ∨ (∃ owner id payloadType, payloadType.isData = true
        ∧ (capture.perform operation).1.streams = capture.streams ++ [{ owner, id, inlet := { payloadType } }])
      ∨ ∃ key stream change, operation = .onStream key change ∧ capture.streams[key]? = some stream
        ∧ (capture.perform operation).1.streams
          = capture.streams.set key
            (StreamOperation.run (capture.interfaceIdOf stream) capture.resources stream change).2 := by
  have hreports : ∀ uptime, (capture.sendReports uptime).1.streams = capture.streams := by
    intro uptime
    obtain ⟨resources, hafter, -⟩ := capture.sendReports_books uptime
    rw [hafter]
  have hupdate : ∀ (owner : Nat) (change : LinkResources T → BusInterface → LinkResources T × BusInterface × Bool),
      (capture.updateInterface owner change).1.streams = capture.streams := by
    intro owner change
    rw [updateInterface]
    split <;> rfl
  cases operation with
  | updateDevice | startReporting | stopReporting | replaceSender => exact .inl rfl
  | sendReports uptime => exact .inl (hreports uptime)
  | reportOnce uptime =>
    refine .inl ?_
    show (capture.reportOnce uptime).streams = capture.streams
    rw [reportOnce]
    split
    · exact hreports uptime
    · rfl
  | addInterface kind id =>
    refine .inl ?_
    rw [CaptureModule.perform]
    cases hadd : capture.addInterface kind id with
    | error error => rfl
    | ok found => exact streams_of_addInterface hadd
  | removeInterface id =>
    refine .inl ?_
    rw [CaptureModule.perform]
    cases hremove : capture.removeInterface id with
    | error error => rfl
    | ok found =>
      obtain ⟨gone, interface, -, -, -, hafter⟩ := removeInterface_eq_ok hremove
      show found.streams = capture.streams
      rw [hafter]
  | onStream key change =>
    cases hstream : capture.streams[key]? with
    | none =>
      refine .inl ?_
      rw [CaptureModule.perform, performStream_of_none hstream]
    | some stream =>
      refine .inr (.inr ⟨key, stream, change, rfl, hstream, ?_⟩)
      rw [CaptureModule.perform, performStream_eq hstream]
  | onInterface owner change =>
    rw [CaptureModule.perform]
    cases change with
    | setLinkStatus | stage => exact .inl rfl
    | changeId id => exact .inl (hupdate owner fun resources interface => interface.changeId resources id)
    | changeKind kind => exact .inl (hupdate owner fun resources interface => (resources, interface.changeKind kind))
    | commit => exact .inl (hupdate owner BusInterface.commit)
    | addStream payloadType id =>
      rw [performInterface]
      cases hadd : capture.addStream owner payloadType id with
      | error error => exact .inl rfl
      | ok found =>
        obtain ⟨granted, hafter⟩ := exists_streams_of_addStream hadd
        exact .inr (.inl ⟨owner, granted, payloadType, isData_of_addStream hadd, hafter⟩)
    | removeStream id =>
      rw [performInterface, removeStream]
      split <;> exact .inl rfl

end CaptureModule

/-- What is kept by everything but a send that can happen to a stream. -/
structure CaptureStream.Kept (T : Type) (good : CaptureStream → Prop) : Prop where
  connect : ∀ {stream : CaptureStream} (shape : Option SignalShape) (axis : Option TimeAxis),
    good stream → good (stream.connect shape axis)
  disconnect : ∀ {stream : CaptureStream}, good stream → good stream.disconnect
  staged : ∀ {stream : CaptureStream} (staged : Option StreamUpdate), good stream → good { stream with staged }
  moveToId : ∀ (resources : LinkResources T) {stream : CaptureStream} (id : UInt8),
    good stream → good (moveToId resources stream id).2.1
  moveToPayloadType : ∀ (resources : LinkResources T) {stream : CaptureStream} (payloadType : PayloadType),
    good stream → good (moveToPayloadType resources stream payloadType).2.1

/-- What is kept by everything that can happen to a live stream. -/
structure CaptureStream.Stable (T : Type) (good : CaptureStream → Prop) : Prop extends Kept T good where
  sent : ∀ {stream : CaptureStream} (packetsSent framesSent : Nat),
    good stream → good { stream with packetsSent, framesSent }

namespace CaptureStream

variable {T : Type} {good : CaptureStream → Prop} {resources : LinkResources T} {stream : CaptureStream}

theorem Kept.commit (hkept : Kept T good) (resources : LinkResources T) (h : good stream) :
    good (stream.commit resources).2.1 := by
  rw [CaptureStream.commit]
  split
  · exact h
  · rename_i update _
    have hcleared := hkept.staged none h
    have hid : ∀ (resources : LinkResources T) {next : CaptureStream}, good next →
        good (applyStaged CaptureStream.moveToId resources next update.id).2.1 := by
      intro resources next hnext
      cases update.id with
      | none => exact hnext
      | some id => exact hkept.moveToId resources id hnext
    cases update.payloadType with
    | none => exact hid resources hcleared
    | some payloadType => exact hid _ (hkept.moveToPayloadType resources payloadType hcleared)

theorem Kept.run [FrameSender T] (hkept : Kept T good) (interfaceId : UInt32) {change : StreamOperation}
    (hquiet : ∀ batch, change ≠ .send batch) (h : good stream) :
    good (change.run interfaceId resources stream).2 := by
  cases change with
  | connect shape axis => exact hkept.connect shape axis h
  | disconnect => exact hkept.disconnect h
  | stage => exact hkept.staged _ h
  | send batch => exact (hquiet batch rfl).elim
  | changeId id =>
    show good (stream.changeId resources id).2.1
    rw [changeId]
    split
    · exact hkept.staged _ h
    · exact hkept.moveToId resources id h
  | changePayloadType payloadType =>
    show good (stream.changePayloadType resources payloadType).2.1
    rw [changePayloadType]
    split
    · exact hkept.staged _ h
    · exact hkept.moveToPayloadType resources payloadType h
  | commit => exact hkept.commit resources h

/-- A live stream never counts a packet as dropped, so that the other counters are the only ones to change. -/
theorem Stable.run [FrameSender T] (hstable : Stable T good) {held : Nat → Option StreamLabel} {key : Nat}
    (hinStep : resources.InStep held) (hkey : held key = some stream.label) (husable : resources.limits.Usable)
    (interfaceId : UInt32) (change : StreamOperation) (h : good stream) :
    good (change.run interfaceId resources stream).2 := by
  cases change with
  | send batch =>
    show good (stream.send resources interfaceId batch).2.1
    rcases send_cases hinStep hkey husable interfaceId batch with
      ⟨answer, hsend, -⟩ | ⟨packets, encoder, frames, sent, -, -, -, -, -, -, ⟨error, -, hnext⟩ | ⟨-, hnext⟩⟩
    · rw [hsend]
      exact h
    · rw [hnext]
      exact h
    · rw [hnext]
      exact hstable.sent _ _ h
  | connect | disconnect | stage | changeId | changePayloadType | commit =>
    exact hstable.toKept.run interfaceId (fun _ hsame => by cases hsame) h

end CaptureStream

/-- What is stable and holds of new streams holds of every stream of a reachable module, removed ones included. -/
theorem CaptureModule.Reachable.forall_stream {T : Type} [FrameSender T] {capture : CaptureModule T}
    {good : CaptureStream → Prop} (h : Reachable capture) (hstable : CaptureStream.Stable T good)
    (hnew : ∀ owner id payloadType, payloadType.isData = true → good { owner, id, inlet := { payloadType } }) :
    ∀ stream ∈ capture.streams, good stream := by
  induction h with
  | create hcreate =>
    rw [create_eq_ok hcreate]
    exact List.forall_mem_nil _
  | @perform capture operation hreachable hpermits ih =>
    have hkeeps := hreachable.wellKept
    rcases capture.perform_streams operation with
      hsame | ⟨owner, id, payloadType, hdata, hgrown⟩ | ⟨key, stream, change, rfl, hstream, hset⟩
    · rw [hsame]
      exact ih
    · rw [hgrown]
      exact List.forall_mem_append.mpr ⟨ih, List.forall_mem_singleton.mpr (hnew owner id payloadType hdata)⟩
    · have hheld := held_eq_some.mpr ⟨hpermits, stream, hstream, rfl⟩
      rw [hset]
      exact forall_mem_set ih key
        (hstable.run hkeeps.inStep hheld hkeeps.usable _ change (ih stream (List.mem_of_getElem? hstream)))

/-! ### Payload types -/

namespace CaptureStream

variable {T : Type}

/-- A new identifier changes nothing else of the stream. -/
theorem moveToId_stream (resources : LinkResources T) (stream : CaptureStream) (id : UInt8) :
    (moveToId resources stream id).2.1 = { stream with id := (moveToId resources stream id).2.1.id } := by
  rw [moveToId]
  split
  · rfl
  · split
    · rfl
    · split
      · split <;> rfl
      · rfl

/-- A stream goes on with its payload type or with another data type. -/
theorem stable_isData : Stable T fun stream => stream.payloadType.isData = true where
  connect := by
    intro stream shape axis h
    show (stream.inlet.connect shape axis).payloadType.isData = true
    rw [SignalInlet.connect_payloadType]
    exact h
  disconnect := by
    intro stream h
    show stream.inlet.disconnect.payloadType.isData = true
    rw [SignalInlet.disconnect_payloadType]
    exact h
  staged _ h := h
  sent _ _ h := h
  moveToId := by
    intro resources stream id h
    rw [moveToId_stream]
    exact h
  moveToPayloadType := by
    intro resources stream payloadType h
    rcases moveToPayloadType_cases resources stream payloadType with hmove | ⟨encoder, hdata, -, hmove⟩
    · rw [hmove]
      exact h
    · rw [hmove, CaptureStream.payloadType, SignalInlet.retype_payloadType]
      exact hdata

end CaptureStream

/-- All streams of a reachable module carry data types. -/
theorem CaptureModule.Reachable.isData_payloadType {T : Type} [FrameSender T] {capture : CaptureModule T}
    (h : Reachable capture) : ∀ stream ∈ capture.streams, stream.payloadType.isData = true :=
  h.forall_stream CaptureStream.stable_isData fun _ _ _ hdata => hdata

/-! ### Interfaces -/

/-- Whether an operation of an interface belongs to an update of its identifier or kind. -/
def InterfaceOperation.isUpdate : InterfaceOperation → Bool
  | .stage | .changeId _ | .changeKind _ | .commit => true
  | .setLinkStatus _ | .addStream .. | .removeStream _ => false

/-- What the calls of an update make of the shared parts and of the interface, and their answer. -/
def InterfaceOperation.update {T : Type} (resources : LinkResources T) (interface : BusInterface) :
    InterfaceOperation → LinkResources T × BusInterface × Bool
  | .stage => (resources, interface.stage, true)
  | .changeId id => interface.changeId resources id
  | .changeKind kind => (resources, interface.changeKind kind)
  | .commit => interface.commit resources
  | .setLinkStatus _ | .addStream .. | .removeStream _ => (resources, interface, true)

namespace CaptureModule

variable {T : Type} {capture after : CaptureModule T} {handle : Nat}

theorem performInterface_eq {interface : BusInterface} (hfound : capture.interfaces[handle]? = some interface)
    {change : InterfaceOperation} (hupdate : change.isUpdate = true) :
    capture.performInterface handle change
      = ({ capture with
            resources := (change.update capture.resources interface).1
            interfaces := capture.interfaces.set handle (change.update capture.resources interface).2.1 },
          (change.update capture.resources interface).2.2) := by
  cases change with
  | stage =>
    rw [performInterface, modifyInterface_eq hfound]
    rfl
  | changeId | changeKind | commit =>
    rw [performInterface, updateInterface_eq hfound]
    rfl
  | setLinkStatus | addStream | removeStream => cases hupdate

/-- The list of interfaces stays as it is, a new interface is appended, one interface has changed in its streams or its
connection, or it took a call of an update. -/
theorem perform_interfaces [FrameSender T] (h : capture.WellKept) {operation : CaptureOperation T}
    (hpermits : capture.Permits operation) :
    (capture.perform operation).1.interfaces = capture.interfaces
      ∨ (∃ id kind, kind.isData = true
        ∧ (capture.perform operation).1.interfaces = capture.interfaces ++ [{ id := id, kind := kind }])
      ∨ (∃ handle interface linkStatus streams, capture.interfaces[handle]? = some interface
        ∧ (∀ change, operation = .onInterface handle change → change.isUpdate = false)
        ∧ (capture.perform operation).1.interfaces
          = capture.interfaces.set handle { interface with linkStatus, streams })
      ∨ ∃ handle interface change, operation = .onInterface handle change ∧ change.isUpdate = true
        ∧ capture.interfaces[handle]? = some interface
        ∧ (capture.perform operation).1.interfaces
          = capture.interfaces.set handle (change.update capture.resources interface).2.1 := by
  have hreports : ∀ uptime, (capture.sendReports uptime).1.interfaces = capture.interfaces := by
    intro uptime
    obtain ⟨resources, hafter, -⟩ := capture.sendReports_books uptime
    rw [hafter]
  cases operation with
  | updateDevice | startReporting | stopReporting | replaceSender => exact .inl rfl
  | sendReports uptime => exact .inl (hreports uptime)
  | reportOnce uptime =>
    refine .inl ?_
    show (capture.reportOnce uptime).interfaces = capture.interfaces
    rw [reportOnce]
    split
    · exact hreports uptime
    · rfl
  | addInterface kind id =>
    rw [CaptureModule.perform]
    cases hadd : capture.addInterface kind id with
    | error error => exact .inl rfl
    | ok found =>
      obtain ⟨granted, -, -, hafter⟩ := addInterface_eq_ok h.interfaceIds hadd
      refine .inr (.inl ⟨granted, kind, isData_of_addInterface hadd, ?_⟩)
      show found.2.interfaces = _
      rw [hafter]
  | removeInterface id =>
    rw [CaptureModule.perform]
    cases hremove : capture.removeInterface id with
    | error error => exact .inl rfl
    | ok found =>
      obtain ⟨gone, interface, -, hfound, -, hafter⟩ := removeInterface_eq_ok hremove
      refine .inr (.inr (.inl ⟨gone, interface, interface.linkStatus, [], hfound, fun _ hsame => (by cases hsame), ?_⟩))
      show found.interfaces = _
      rw [hafter]
  | onStream key change =>
    obtain ⟨stream, hstream, -⟩ := h.live hpermits
    rw [CaptureModule.perform, performStream_eq hstream]
    exact .inl rfl
  | onInterface owner change =>
    obtain ⟨interface, hfound, -⟩ := h.listed hpermits
    cases hupdate : change.isUpdate with
    | true =>
      refine .inr (.inr (.inr ⟨owner, interface, change, rfl, hupdate, hfound, ?_⟩))
      rw [CaptureModule.perform, performInterface_eq hfound hupdate]
    | false =>
      have hother : ∀ other, (.onInterface owner change : CaptureOperation T) = .onInterface owner other →
          other.isUpdate = false := by
        intro other hsame
        cases hsame
        exact hupdate
      rw [CaptureModule.perform]
      cases change with
      | stage | changeId | changeKind | commit => cases hupdate
      | setLinkStatus linkStatus =>
        refine .inr (.inr (.inl ⟨owner, interface, linkStatus, interface.streams, hfound, hother, ?_⟩))
        rw [performInterface, modifyInterface_eq hfound]
      | addStream payloadType id =>
        rw [performInterface]
        cases hadd : capture.addStream owner payloadType id with
        | error error => exact .inl rfl
        | ok found =>
          obtain ⟨granted, -, -, hafter⟩ := addStream_eq_ok h.inStep.tracks h.inStep.greatest h.inStep.serves.size hadd
          refine .inr (.inr (.inl ⟨owner, interface, interface.linkStatus,
            interface.streams ++ [capture.streams.length], hfound, hother, ?_⟩))
          show found.2.interfaces = _
          rw [hafter, modify_eq_set hfound]
      | removeStream id =>
        rw [performInterface, removeStream]
        split
        · exact .inl rfl
        · rename_i gone _
          refine .inr (.inr (.inl ⟨owner, interface, interface.linkStatus, interface.streams.erase gone, hfound, hother,
            ?_⟩))
          show capture.interfaces.modify owner _ = _
          rw [modify_eq_set hfound]

end CaptureModule

/-! ### Kinds of interfaces -/

namespace BusInterface

theorem isData_moveToKind {interface : BusInterface} (h : interface.kind.isData = true) (kind : PayloadType) :
    (moveToKind interface kind).1.kind.isData = true := by
  rw [moveToKind]
  split_ifs with hkind
  · exact hkind
  · exact h

theorem kind_moveToId {T : Type} (resources : LinkResources T) (interface : BusInterface) (id : UInt32) :
    (moveToId resources interface id).2.1.kind = interface.kind := by
  rw [moveToId]
  split <;> rfl

theorem isData_update {T : Type} (resources : LinkResources T) {interface : BusInterface}
    (h : interface.kind.isData = true) (change : InterfaceOperation) :
    (change.update resources interface).2.1.kind.isData = true := by
  cases change with
  | stage | setLinkStatus | addStream | removeStream => exact h
  | changeId id =>
    show (interface.changeId resources id).2.1.kind.isData = true
    rw [changeId]
    split
    · exact h
    · rw [kind_moveToId]
      exact h
  | changeKind kind =>
    show (interface.changeKind kind).1.kind.isData = true
    rw [changeKind]
    split
    · exact h
    · exact isData_moveToKind h kind
  | commit =>
    show (interface.commit resources).2.1.kind.isData = true
    rw [commit]
    split
    · exact h
    · rename_i update _
      have hmoved : ∀ next : BusInterface, next.kind.isData = true → ∀ id : UInt32,
          (moveToId resources next id).2.1.kind.isData = true := by
        intro next hnext id
        rw [kind_moveToId]
        exact hnext
      cases update.kind with
      | none =>
        cases update.id with
        | none => exact h
        | some id => exact hmoved { interface with staged := none } h id
      | some kind =>
        have hunstaged : { interface with staged := none }.kind.isData = true := h
        have hretyped := isData_moveToKind hunstaged kind
        cases update.id with
        | none => exact hretyped
        | some id => exact hmoved _ hretyped id

end BusInterface

/-- All interfaces of a reachable module have data types as their kinds. -/
theorem CaptureModule.Reachable.isData_kind {T : Type} [FrameSender T] {capture : CaptureModule T}
    (h : Reachable capture) : ∀ interface ∈ capture.interfaces, interface.kind.isData = true := by
  induction h with
  | create hcreate =>
    rw [create_eq_ok hcreate]
    exact List.forall_mem_nil _
  | perform hreachable hpermits ih =>
    rcases perform_interfaces hreachable.wellKept hpermits with
      hsame | ⟨id, kind, hdata, hgrown⟩ | ⟨handle, interface, linkStatus, streams, hfound, -, hchanged⟩
        | ⟨handle, interface, change, -, -, hfound, hchanged⟩
    · rw [hsame]
      exact ih
    · rw [hgrown]
      exact List.forall_mem_append.mpr ⟨ih, List.forall_mem_singleton.mpr hdata⟩
    · rw [hchanged]
      exact forall_mem_set ih handle (ih interface (List.mem_of_getElem? hfound))
    · rw [hchanged]
      exact forall_mem_set ih handle (BusInterface.isData_update _ (ih interface (List.mem_of_getElem? hfound)) change)

end CaptureProtocol
