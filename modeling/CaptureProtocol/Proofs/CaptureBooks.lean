import CaptureProtocol.Proofs.CaptureMembership
import Mathlib

/-!
# The books of a reachable capture module

* `WellKept.perform` — every permitted operation keeps the invariant, so that it holds of every reachable module
  (`Reachable.wellKept`);
* `CaptureModule.perform_refused` — a refused operation other than the end of an update leaves interfaces, streams,
  identifiers and slot bindings as they are;
* `CaptureModule.BooksBalance` — the invariant told of the lists of interfaces and streams;
* `CaptureModule.reachable_booksBalance` — it holds of every reachable module.
-/

namespace CaptureProtocol

namespace CaptureModule

variable {T : Type} {capture after : CaptureModule T} {handle key : Nat}

/-! ### Every operation keeps the invariant -/

theorem modifyStream_eq {stream : CaptureStream} (hstream : capture.streams[key]? = some stream)
    (change : CaptureStream → CaptureStream) :
    capture.modifyStream key change
      = { capture with resources := capture.resources, streams := capture.streams.set key (change stream) } := by
  rw [modifyStream, modify_eq_set hstream]

theorem modifyInterface_eq {interface : BusInterface} (hfound : capture.interfaces[handle]? = some interface)
    (change : BusInterface → BusInterface) :
    capture.modifyInterface handle change
      = { capture with
          resources := capture.resources
          interfaces := capture.interfaces.set handle (change interface) } := by
  rw [modifyInterface, modify_eq_set hfound]

theorem updateStream_eq {α : Type} {stream : CaptureStream} (hstream : capture.streams[key]? = some stream)
    (operation : LinkResources T → CaptureStream → LinkResources T × CaptureStream × α) :
    capture.updateStream key operation
      = ({ capture with
            resources := (operation capture.resources stream).1
            streams := capture.streams.set key (operation capture.resources stream).2.1 },
          some (operation capture.resources stream).2.2) := by
  rw [updateStream, hstream]

theorem updateInterface_eq {α : Type} {interface : BusInterface}
    (hfound : capture.interfaces[handle]? = some interface)
    (operation : LinkResources T → BusInterface → LinkResources T × BusInterface × α) :
    capture.updateInterface handle operation
      = ({ capture with
            resources := (operation capture.resources interface).1
            interfaces := capture.interfaces.set handle (operation capture.resources interface).2.1 },
          some (operation capture.resources interface).2.2) := by
  rw [updateInterface, hfound]

end CaptureModule

/-- What an operation makes of the shared parts and of its stream, which belongs to an interface. -/
def StreamOperation.run {T : Type} [FrameSender T] (interfaceId : UInt32) (resources : LinkResources T)
    (stream : CaptureStream) : StreamOperation → LinkResources T × CaptureStream
  | .connect shape axis => (resources, stream.connect shape axis)
  | .disconnect => (resources, stream.disconnect)
  | .send batch =>
    let (resources, stream, _) := stream.send resources interfaceId batch
    (resources, stream)
  | .stage => (resources, stream.stage)
  | .changeId id =>
    let (resources, stream, _) := stream.changeId resources id
    (resources, stream)
  | .changePayloadType payloadType =>
    let (resources, stream, _) := stream.changePayloadType resources payloadType
    (resources, stream)
  | .commit =>
    let (resources, stream, _) := stream.commit resources
    (resources, stream)

/-- Every operation of a stream in use leaves the shared parts in step with its label. -/
theorem StreamOperation.run_follows {T : Type} [FrameSender T] {resources : LinkResources T} {stream : CaptureStream}
    {held : Nat → Option StreamLabel} {key : Nat} (h : resources.InStep held) (hkey : held key = some stream.label)
    (husable : resources.limits.Usable) (interfaceId : UInt32) (operation : StreamOperation) :
    CaptureStream.Follows held key resources stream (operation.run interfaceId resources stream).1
      (operation.run interfaceId resources stream).2 := by
  cases operation with
  | connect shape axis =>
    refine CaptureStream.follows_of_label h hkey (.refl _) ?_ rfl fun _ => ?_
    · show CaptureStream.label (stream.connect shape axis) = _
      rw [CaptureStream.label, CaptureStream.label, CaptureStream.payloadType, CaptureStream.connect,
        SignalInlet.connect_payloadType]
      rfl
    · exact SignalInlet.settled_connect stream.inlet shape axis
  | disconnect =>
    refine CaptureStream.follows_of_label h hkey (.refl _) ?_ rfl fun _ => ?_
    · show CaptureStream.label stream.disconnect = _
      rw [CaptureStream.label, CaptureStream.label, CaptureStream.payloadType, CaptureStream.disconnect,
        SignalInlet.disconnect_payloadType]
      rfl
    · exact SignalInlet.settled_disconnect stream.inlet
  | send batch => exact CaptureStream.send_follows h hkey husable interfaceId batch
  | stage => exact CaptureStream.follows_stage h hkey _
  | changeId id => exact CaptureStream.changeId_follows h hkey id
  | changePayloadType payloadType => exact CaptureStream.changePayloadType_follows h hkey payloadType
  | commit => exact CaptureStream.commit_follows h hkey

namespace CaptureModule

variable {T : Type} {capture after : CaptureModule T} {handle key : Nat}

/-- An operation through the handle of a stream changes the shared parts and that stream. -/
theorem performStream_eq [FrameSender T] {stream : CaptureStream} (hstream : capture.streams[key]? = some stream)
    (operation : StreamOperation) :
    (capture.performStream key operation).1
      = { capture with
          resources := (operation.run (capture.interfaceIdOf stream) capture.resources stream).1
          streams := capture.streams.set key
            (operation.run (capture.interfaceIdOf stream) capture.resources stream).2 } := by
  cases operation with
  | connect | disconnect | stage => exact modifyStream_eq hstream _
  | send batch =>
    rw [performStream, send, updateStream_eq hstream]
    rfl
  | changeId | changePayloadType | commit =>
    rw [performStream, updateStream_eq hstream]
    rfl

/-- Nothing happens through the handle of a stream that is not there yet. -/
theorem performStream_of_none [FrameSender T] (hnone : capture.streams[key]? = none)
    (operation : StreamOperation) : (capture.performStream key operation).1 = capture := by
  have hmodify : ∀ change : CaptureStream → CaptureStream, capture.modifyStream key change = capture := by
    intro change
    rw [modifyStream, List.modify_eq_self (List.getElem?_eq_none_iff.mp hnone)]
  have hupdate : ∀ {α : Type} (change : LinkResources T → CaptureStream → LinkResources T × CaptureStream × α),
      (capture.updateStream key change).1 = capture := by
    intro α change
    rw [updateStream, hnone]
  cases operation with
  | connect | disconnect | stage => exact hmodify _
  | send batch => exact hupdate fun resources stream => stream.send resources (capture.interfaceIdOf stream) batch
  | changeId id => exact hupdate fun resources stream => stream.changeId resources id
  | changePayloadType payloadType =>
    exact hupdate fun resources stream => stream.changePayloadType resources payloadType
  | commit => exact hupdate CaptureStream.commit

theorem WellKept.performStream [FrameSender T] (h : capture.WellKept) (hlive : capture.Live key)
    (operation : StreamOperation) : (capture.performStream key operation).1.WellKept := by
  obtain ⟨stream, hstream, hheld⟩ := h.live hlive
  rw [performStream_eq hstream]
  exact h.setStream hlive hstream (operation.run_follows h.inStep hheld h.usable _)

theorem WellKept.orUnchanged (h : capture.WellKept) {outcome : Except LinkError (CaptureModule T)}
    (houtcome : ∀ after, outcome = .ok after → after.WellKept) : (capture.orUnchanged outcome).1.WellKept := by
  cases outcome with
  | error error => exact h
  | ok after => exact houtcome after rfl

theorem map_snd_eq_ok {α : Type} {outcome : Except LinkError (α × CaptureModule T)}
    (h : outcome.map Prod.snd = .ok after) : ∃ value, outcome = .ok (value, after) := by
  cases outcome with
  | error error => cases h
  | ok found =>
    cases h
    exact ⟨found.1, rfl⟩

theorem WellKept.performInterface (h : capture.WellKept) (hlisted : handle ∈ capture.listed)
    (operation : InterfaceOperation) : (capture.performInterface handle operation).1.WellKept := by
  obtain ⟨interface, hfound, hheld⟩ := h.listed hlisted
  have hset : ∀ {resources next},
      BusInterface.Follows capture.interfaceHeld handle capture.resources interface resources next →
      WellKept { capture with resources, interfaces := capture.interfaces.set handle next } :=
    h.setInterface hlisted hfound
  cases operation with
  | setLinkStatus linkStatus =>
    rw [CaptureModule.performInterface, modifyInterface_eq hfound]
    exact hset (BusInterface.follows_of_id h.interfaceIds hheld rfl rfl)
  | addStream payloadType id =>
    refine h.orUnchanged fun after hadd => ?_
    obtain ⟨key, hadd⟩ := map_snd_eq_ok hadd
    exact h.addStream hlisted hadd
  | removeStream id => exact h.orUnchanged fun after hremove => h.removeStream hlisted hremove
  | stage =>
    rw [CaptureModule.performInterface, modifyInterface_eq hfound]
    exact hset (BusInterface.follows_of_id h.interfaceIds hheld rfl rfl)
  | changeId id =>
    rw [CaptureModule.performInterface, updateInterface_eq hfound]
    exact hset (BusInterface.changeId_follows h.interfaceIds hheld id)
  | changeKind kind =>
    obtain ⟨hid, hstreams⟩ := BusInterface.changeKind_id interface kind
    rw [CaptureModule.performInterface, updateInterface_eq hfound]
    exact hset (BusInterface.follows_of_id h.interfaceIds hheld hid hstreams)
  | commit =>
    rw [CaptureModule.performInterface, updateInterface_eq hfound]
    exact hset (BusInterface.commit_follows h.interfaceIds hheld)

/-- The reports go through slot 0 and change nothing else. -/
theorem sendReports_books [FrameSender T] (capture : CaptureModule T) (uptime : UInt64) :
    ∃ resources, (capture.sendReports uptime).1 = { capture with resources }
      ∧ capture.resources.SameBooks resources := by
  have hbooks := LinkResources.sameBooks_encode capture.resources statusSlot (capture.reports uptime)
  rw [sendReports]
  generalize capture.resources.encoders.encode statusSlot capture.resources.limits (capture.reports uptime) = encoded
    at hbooks
  obtain ⟨encoders, error | frames⟩ := encoded
  · exact ⟨_, rfl, hbooks capture.resources.sender⟩
  · exact ⟨_, rfl, hbooks _⟩

theorem WellKept.perform [FrameSender T] (h : capture.WellKept) {operation : CaptureOperation T}
    (hpermits : capture.Permits operation) : (capture.perform operation).1.WellKept := by
  have hreports : ∀ uptime, (capture.sendReports uptime).1.WellKept := by
    intro uptime
    obtain ⟨resources, hafter, hbooks⟩ := capture.sendReports_books uptime
    rw [hafter]
    exact h.of_sameBooks hbooks
  cases operation with
  | updateDevice change =>
    exact ⟨h.listed_nodup, h.listed_created, h.streams_nodup, h.owner, h.interfaceIds, h.inStep, h.usable, h.settled,
      h.device⟩
  | addInterface kind id =>
    refine h.orUnchanged fun after hadd => ?_
    obtain ⟨handle, hadd⟩ := map_snd_eq_ok hadd
    exact h.addInterface hadd
  | removeInterface id => exact h.orUnchanged fun after hremove => h.removeInterface hremove
  | sendReports uptime => exact hreports uptime
  | startReporting =>
    exact ⟨h.listed_nodup, h.listed_created, h.streams_nodup, h.owner, h.interfaceIds, h.inStep, h.usable, h.settled,
      h.device⟩
  | stopReporting =>
    exact ⟨h.listed_nodup, h.listed_created, h.streams_nodup, h.owner, h.interfaceIds, h.inStep, h.usable, h.settled,
      h.device⟩
  | reportOnce uptime =>
    show (capture.reportOnce uptime).WellKept
    rw [reportOnce]
    split
    · exact hreports uptime
    · exact h
  | onInterface handle operation => exact h.performInterface hpermits operation
  | onStream handle operation => exact h.performStream hpermits operation
  | replaceSender sender => exact h.of_sameBooks ⟨rfl, rfl, rfl, rfl, rfl, rfl⟩

theorem Reachable.wellKept [FrameSender T] (h : Reachable capture) : capture.WellKept := by
  induction h with
  | create hcreate => exact .created hcreate
  | perform _ hpermits ih => exact ih.perform hpermits

/-! ### What is refused changes nothing -/

/-- Interfaces, streams, identifiers and slot bindings are the same. -/
structure SameHoldings (before after : CaptureModule T) : Prop where
  listed : after.listed = before.listed
  interfaces : after.interfaces = before.interfaces
  streams : after.streams = before.streams
  interfaceIds : after.resources.interfaceIds = before.resources.interfaceIds
  streamIds : after.resources.streamIds = before.resources.streamIds
  bindings : after.resources.encoders.binding = before.resources.encoders.binding

theorem SameHoldings.refl (capture : CaptureModule T) : SameHoldings capture capture := ⟨rfl, rfl, rfl, rfl, rfl, rfl⟩

theorem sameHoldings_of_sameBooks {resources : LinkResources T} (h : capture.resources.SameBooks resources) :
    SameHoldings capture { capture with resources } :=
  ⟨rfl, rfl, rfl, h.interfaceIds, h.streamIds, h.binding⟩

theorem set_eq_self {α : Type} {list : List α} {index : Nat} {value : α} (h : list[index]? = some value) :
    list.set index value = list := by
  obtain ⟨hindex, rfl⟩ := List.getElem?_eq_some_iff.mp h
  exact List.set_getElem_self hindex

theorem orUnchanged_refused {outcome : Except LinkError (CaptureModule T)}
    (hrefused : (capture.orUnchanged outcome).2 = false) : SameHoldings capture (capture.orUnchanged outcome).1 := by
  cases outcome with
  | error error => exact .refl capture
  | ok after => cases hrefused

theorem performStream_refused [FrameSender T] (h : capture.WellKept) (hlive : capture.Live key)
    {operation : StreamOperation} (hcommit : operation ≠ .commit)
    (hrefused : (capture.performStream key operation).2 = false) :
    SameHoldings capture (capture.performStream key operation).1 := by
  obtain ⟨stream, hstream, hheld⟩ := h.live hlive
  cases operation with
  | connect | disconnect | stage => cases hrefused
  | commit => exact (hcommit rfl).elim
  | send batch =>
    rw [performStream, send, updateStream_eq hstream] at hrefused ⊢
    dsimp only at hrefused ⊢
    cases hanswer : (stream.send capture.resources (capture.interfaceIdOf stream) batch).2.2 with
    | ok count =>
      rw [hanswer] at hrefused
      cases hrefused
    | error failure =>
      obtain ⟨hbooks, hnext⟩ := CaptureStream.send_refused h.inStep hheld h.usable hanswer
      rw [hnext, set_eq_self hstream]
      exact sameHoldings_of_sameBooks hbooks
  | changeId id =>
    rw [performStream, updateStream_eq hstream] at hrefused ⊢
    obtain ⟨hresources, hnext⟩ := CaptureStream.changeId_refused h.inStep hrefused
    dsimp only
    rw [hresources, hnext, set_eq_self hstream]
    exact .refl capture
  | changePayloadType payloadType =>
    rw [performStream, updateStream_eq hstream] at hrefused ⊢
    obtain ⟨hresources, hnext⟩ := CaptureStream.changePayloadType_refused hrefused
    dsimp only
    rw [hresources, hnext, set_eq_self hstream]
    exact .refl capture

theorem performInterface_refused (h : capture.WellKept) (hlisted : handle ∈ capture.listed)
    {operation : InterfaceOperation} (hcommit : operation ≠ .commit)
    (hrefused : (capture.performInterface handle operation).2 = false) :
    SameHoldings capture (capture.performInterface handle operation).1 := by
  obtain ⟨interface, hfound, -⟩ := h.listed hlisted
  cases operation with
  | setLinkStatus | stage => cases hrefused
  | commit => exact (hcommit rfl).elim
  | addStream payloadType id => exact orUnchanged_refused hrefused
  | removeStream id => exact orUnchanged_refused hrefused
  | changeId id =>
    rw [performInterface, updateInterface_eq hfound] at hrefused ⊢
    have hsame := BusInterface.changeId_refused hrefused
    dsimp only
    rw [hsame, set_eq_self hfound]
    exact .refl capture
  | changeKind kind =>
    rw [performInterface, updateInterface_eq hfound] at hrefused ⊢
    have hsame := BusInterface.changeKind_refused hrefused
    dsimp only
    rw [hsame, set_eq_self hfound]
    exact .refl capture

/-- What is refused, other than the end of an update, leaves all holdings as they are. -/
theorem perform_refused [FrameSender T] (h : capture.WellKept) {operation : CaptureOperation T}
    (hpermits : capture.Permits operation) (hcommit : operation.isCommit = false)
    (hrefused : (capture.perform operation).2 = false) : SameHoldings capture (capture.perform operation).1 := by
  cases operation with
  | updateDevice | startReporting | stopReporting | reportOnce | replaceSender => cases hrefused
  | addInterface kind id => exact orUnchanged_refused hrefused
  | removeInterface id => exact orUnchanged_refused hrefused
  | sendReports uptime =>
    obtain ⟨resources, hafter, hbooks⟩ := capture.sendReports_books uptime
    show SameHoldings capture (capture.sendReports uptime).1
    rw [hafter]
    exact sameHoldings_of_sameBooks hbooks
  | onInterface handle operation =>
    refine performInterface_refused h hpermits ?_ hrefused
    rintro rfl
    cases hcommit
  | onStream handle operation =>
    refine performStream_refused h hpermits ?_ hrefused
    rintro rfl
    cases hcommit

/-! ### The invariant told of interfaces and streams -/

theorem liveStreams_eq (capture : CaptureModule T) :
    capture.liveStreams = (capture.listed.flatMap capture.streamsAt).filterMap (capture.streams[·]?) := by
  rw [liveStreams, listedInterfaces, List.filterMap_flatMap]
  induction capture.listed with
  | nil => rfl
  | cons handle handles ih =>
    rw [List.flatMap_cons]
    cases hfound : capture.interfaces[handle]? with
    | none =>
      rw [List.filterMap_cons_none hfound, ih, streamsAt, hfound]
      rfl
    | some interface =>
      rw [List.filterMap_cons_some hfound, List.flatMap_cons, ih, streamsAt_of_getElem? hfound]
      rfl

theorem mem_liveStreams {stream : CaptureStream} :
    stream ∈ capture.liveStreams ↔ ∃ key, capture.Live key ∧ capture.streams[key]? = some stream := by
  rw [liveStreams_eq, List.mem_filterMap]
  simp only [List.mem_flatMap, Live]

theorem exists_held {stream : CaptureStream} (hmem : stream ∈ capture.liveStreams) :
    ∃ key, capture.held key = some stream.label := by
  obtain ⟨key, hlive, hstream⟩ := mem_liveStreams.mp hmem
  exact ⟨key, held_eq_some.mpr ⟨hlive, stream, hstream, rfl⟩⟩

theorem exists_liveStream {label : StreamLabel} (hheld : capture.held key = some label) :
    ∃ stream ∈ capture.liveStreams, stream.label = label := by
  obtain ⟨hlive, stream, hstream, hlabel⟩ := held_eq_some.mp hheld
  exact ⟨stream, mem_liveStreams.mpr ⟨key, hlive, hstream⟩, hlabel⟩

/-- No stream was added to two interfaces. -/
theorem WellKept.streamsAt_nodup (h : capture.WellKept) : (capture.listed.flatMap capture.streamsAt).Nodup := by
  rw [List.nodup_flatMap]
  refine ⟨fun handle _ => h.streams_nodup handle, ?_⟩
  refine h.listed_nodup.imp fun hne key hfirst hsecond => ?_
  exact hne (h.owner_unique hfirst hsecond)

/-- The identifiers in use are those of the interfaces and streams of the module, all of them different; the slots of
its streams, and besides them only slot 0, are bound, each to its stream. -/
structure BooksBalance (capture : CaptureModule T) : Prop where
  interfaceIds : ∀ id, id ∈ capture.resources.interfaceIds.used ↔ id ∈ capture.listedInterfaces.map BusInterface.id
  interfaceIds_nodup : (capture.listedInterfaces.map BusInterface.id).Nodup
  streamIds : ∀ id, id ∈ capture.resources.streamIds.used ↔ id ∈ capture.liveStreams.map (·.id.toUInt32)
  streamIds_nodup : (capture.liveStreams.map CaptureStream.id).Nodup
  streamIds_range : ∀ stream ∈ capture.liveStreams, 1 ≤ stream.id.toNat ∧ stream.id.toNat ≤ 255
  slots : ∀ slot, 1 ≤ slot → slot ≤ 255 →
    (capture.resources.encoders.isBound slot = true ↔ ∃ stream ∈ capture.liveStreams, stream.id.toNat = slot)
  bindings : ∀ stream ∈ capture.liveStreams, capture.resources.encoders.binding stream.id.toNat
    = some { slot := stream.id.toNat, deviceId := capture.device.deviceId, streamId := stream.id,
             payloadType := some stream.payloadType }
  statusSlot : capture.resources.encoders.binding 0
    = some { slot := 0, deviceId := capture.device.deviceId, streamId := 0, payloadType := none }

theorem WellKept.booksBalance (h : capture.WellKept) : capture.BooksBalance where
  interfaceIds := by
    intro id
    rw [h.interfaceIds.held, listedInterfaces, List.map_filterMap, List.mem_filterMap]
    refine exists_congr fun handle => ?_
    rw [interfaceHeld, ite_eq_iff]
    constructor
    · rintro (hfound | ⟨-, hnone⟩)
      · exact hfound
      · cases hnone
    · exact .inl
  interfaceIds_nodup := by
    have hids : capture.listedInterfaces.map BusInterface.id = capture.listed.filterMap capture.interfaceHeld := by
      rw [listedInterfaces, List.map_filterMap]
      refine List.filterMap_congr fun handle hlisted => ?_
      rw [interfaceHeld, if_pos hlisted]
    rw [hids]
    exact h.listed_nodup.filterMap fun _ _ _ hfirst hsecond => h.interfaceIds.unique hfirst hsecond
  streamIds := by
    intro id
    rw [h.inStep.tracks.held, List.mem_map]
    constructor
    · rintro ⟨key, hheld⟩
      obtain ⟨label, hlabel, rfl⟩ := Option.map_eq_some_iff.mp hheld
      obtain ⟨stream, hmem, rfl⟩ := exists_liveStream hlabel
      exact ⟨stream, hmem, rfl⟩
    · rintro ⟨stream, hmem, rfl⟩
      obtain ⟨key, hheld⟩ := exists_held hmem
      exact ⟨key, Option.map_eq_some_iff.mpr ⟨stream.label, hheld, rfl⟩⟩
  streamIds_nodup := by
    have hids : capture.liveStreams.map CaptureStream.id
        = (capture.listed.flatMap capture.streamsAt).filterMap fun key => (capture.held key).map StreamLabel.id := by
      rw [liveStreams_eq, List.map_filterMap]
      refine List.filterMap_congr fun key hkey => ?_
      have hlive : capture.Live key := List.mem_flatMap.mp hkey
      rw [held, if_pos hlive, Option.map_map]
      rfl
    rw [hids]
    refine h.streamsAt_nodup.filterMap fun first second id hfirst hsecond => ?_
    obtain ⟨old, hold, rfl⟩ := Option.map_eq_some_iff.mp hfirst
    obtain ⟨new, hnew, hsame⟩ := Option.map_eq_some_iff.mp hsecond
    exact h.inStep.id_unique hold hnew hsame.symm
  streamIds_range := by
    intro stream hmem
    obtain ⟨key, hheld⟩ := exists_held hmem
    have hpos := h.inStep.id_ne_zero hheld
    exact ⟨Nat.one_le_iff_ne_zero.mpr hpos, Nat.le_of_lt_succ stream.id.toNat_lt⟩
  slots := by
    intro slot hpos hlimit
    have hbound : capture.resources.encoders.isBound slot = (capture.resources.encoders.binding slot).isSome := by
      rw [EncoderRack.isBound, EncoderRack.binding, Option.isSome_map]
    rw [hbound]
    constructor
    · intro hsome
      by_contra hnone
      rw [h.inStep.serves.unbound (Nat.one_le_iff_ne_zero.mp hpos)] at hsome
      · cases hsome
      · intro key label hheld hslot
        obtain ⟨stream, hmem, rfl⟩ := exists_liveStream hheld
        exact hnone ⟨stream, hmem, hslot⟩
    · rintro ⟨stream, hmem, rfl⟩
      obtain ⟨key, hheld⟩ := exists_held hmem
      exact Option.isSome_of_eq_some (h.inStep.serves.bound hheld)
  bindings := by
    intro stream hmem
    obtain ⟨key, hheld⟩ := exists_held hmem
    rw [← h.device]
    exact h.inStep.serves.bound hheld
  statusSlot := by
    rw [← h.device]
    exact h.inStep.serves.status

/-- The books of every reachable module balance, and what it refuses, other than the end of an update, leaves all
holdings as they are. -/
theorem reachable_booksBalance [FrameSender T] (h : Reachable capture) :
    capture.BooksBalance ∧ ∀ operation, capture.Permits operation → operation.isCommit = false →
      (capture.perform operation).2 = false → SameHoldings capture (capture.perform operation).1 :=
  ⟨h.wellKept.booksBalance, fun _ hpermits hcommit hrefused => perform_refused h.wellKept hpermits hcommit hrefused⟩

/-- A new module that sends into a loopback queue. -/
def bench : CaptureModule LoopbackQueue where
  config := {}
  resources := .create {} 3 { source := [2, 0, 0, 0, 0, 1], capacity := 4 }
  device := { deviceId := 3 }

/-- The module with one interface, whose stream was moved from identifier 1 to 9. -/
def renumberedBench : CaptureModule LoopbackQueue :=
  let withInterface := (bench.perform (.addInterface .can none)).1
  let withStream := (withInterface.perform (.onInterface 0 (.addStream .can none))).1
  (withStream.perform (.onStream 0 (.changeId 9))).1

theorem create_bench : create {} { deviceId := 3 } { source := [2, 0, 0, 0, 0, 1], capacity := 4 } = .ok bench := rfl

theorem reachable_renumberedBench : Reachable renumberedBench :=
  .perform (.perform (.perform (.create create_bench) trivial) (by decide +kernel)) (by decide +kernel)

theorem reachable_booksBalance_renumberedBench :
    Reachable renumberedBench ∧ renumberedBench.liveStreams.map CaptureStream.id = [9] ∧ renumberedBench.BooksBalance
      ∧ SameHoldings renumberedBench (renumberedBench.perform (.onStream 0 (.changeId 0))).1 := by
  obtain ⟨hbalance, hrefused⟩ := reachable_booksBalance reachable_renumberedBench
  exact ⟨reachable_renumberedBench, by decide +kernel, hbalance,
    hrefused (.onStream 0 (.changeId 0)) (by decide +kernel) rfl (by decide +kernel)⟩

end CaptureModule

end CaptureProtocol
