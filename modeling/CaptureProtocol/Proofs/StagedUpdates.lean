import CaptureProtocol.Proofs.PendingUpdates
import Mathlib

/-!
# Updates and immediate changes

* `CaptureModule.perform_commit_eq` — the end of an update does what the changes do that it stands for, in either order;
* `StreamUpdates`, `InterfaceUpdates` — what the updates of a stream and of an interface come to;
* `CaptureModule.reachable_updates` — it holds of every live stream and every interface of a reachable module.
-/

namespace CaptureProtocol

namespace CaptureModule

variable {T : Type} [FrameSender T] {capture : CaptureModule T} {key handle : Nat}

/-! ### The end of an update -/

theorem perform_commit_eq (h : capture.WellKept) (hlive : capture.Live key) {stream : CaptureStream}
    (hstream : capture.streams[key]? = some stream) {update : StreamUpdate} (hstaged : stream.staged = some update)
    {changes : List StreamOperation} (hchanges : changes = update.changes ∨ changes = update.changes.reverse) :
    capture.perform (.onStream key .commit)
      = ((capture.modifyStream key ({ · with staged := none })).performAll (changes.map (.onStream key)),
        (capture.modifyStream key ({ · with staged := none })).acceptsAll (changes.map (.onStream key))) := by
  have hkey : key < capture.streams.length := (List.getElem?_eq_some_iff.mp hstream).1
  have hcleared : capture.modifyStream key ({ · with staged := none })
      = capture.putStream key capture.resources { stream with staged := none } := modifyStream_eq hstream _
  have hheld : capture.held key = some (CaptureStream.label { stream with staged := none }) :=
    held_eq_some.mpr ⟨hlive, stream, hstream, rfl⟩
  -- without an update the changes happen at once
  have hid : ∀ (resources : LinkResources T) {next : CaptureStream}, next.staged = none → ∀ id,
      (capture.putStream key resources next).perform (.onStream key (.changeId id))
        = (capture.putStream key (next.moveToId resources id).1 (next.moveToId resources id).2.1,
          (next.moveToId resources id).2.2) := by
    intro resources next hidle id
    rw [perform_onStream (List.getElem?_set_self hkey) rfl, putStream_putStream, StreamOperation.update,
      CaptureStream.changeId, hidle]
    rfl
  have htype : ∀ (resources : LinkResources T) {next : CaptureStream}, next.staged = none → ∀ payloadType,
      (capture.putStream key resources next).perform (.onStream key (.changePayloadType payloadType))
        = (capture.putStream key (next.moveToPayloadType resources payloadType).1
            (next.moveToPayloadType resources payloadType).2.1,
          (next.moveToPayloadType resources payloadType).2.2) := by
    intro resources next hidle payloadType
    rw [perform_onStream (List.getElem?_set_self hkey) rfl, putStream_putStream, StreamOperation.update,
      CaptureStream.changePayloadType, hidle]
    rfl
  rw [perform_onStream hstream rfl, hcleared, StreamOperation.update, CaptureStream.commit, hstaged]
  obtain ⟨_ | id, _ | payloadType⟩ := update
  · rcases hchanges with rfl | rfl <;> rfl
  · obtain rfl : changes = [.changePayloadType payloadType] := or_self_iff.mp hchanges
    rw [List.map_singleton, performAll_singleton, acceptsAll_singleton, htype _ rfl]
    exact Prod.ext rfl (Bool.and_true _)
  · obtain rfl : changes = [.changeId id] := or_self_iff.mp hchanges
    rw [List.map_singleton, performAll_singleton, acceptsAll_singleton, hid _ rfl]
    rfl
  · have htyped : (CaptureStream.moveToPayloadType capture.resources { stream with staged := none }
        payloadType).2.1.staged = none :=
      (CaptureStream.applyStaged_moveToPayloadType h.inStep hheld (some payloadType)).2.2.1
    have hmoved : (CaptureStream.moveToId capture.resources { stream with staged := none } id).2.1.staged = none := by
      rw [CaptureStream.moveToId_stream]
    obtain ⟨hresources, hnext, hidAccepted, htypeAccepted⟩ :=
      CaptureStream.moveToId_moveToPayloadType h.inStep hheld payloadType id
    obtain rfl | rfl : changes = [.changePayloadType payloadType, .changeId id]
      ∨ changes = [.changeId id, .changePayloadType payloadType] := hchanges
    · rw [List.map_cons, List.map_singleton, performAll_pair, acceptsAll_pair, htype _ rfl]
      dsimp only
      rw [hid _ htyped]
      rfl
    · rw [List.map_cons, List.map_singleton, performAll_pair, acceptsAll_pair, hid _ rfl]
      dsimp only
      rw [htype _ hmoved]
      dsimp only
      rw [← hresources, ← hnext, htypeAccepted, Bool.and_comm, ← hidAccepted]
      rfl

theorem perform_commit_eqInterface {interface : BusInterface} (hfound : capture.interfaces[handle]? = some interface)
    {update : InterfaceUpdate} (hstaged : interface.staged = some update)
    {changes : List InterfaceOperation} (hchanges : changes = update.changes ∨ changes = update.changes.reverse) :
    capture.perform (.onInterface handle .commit)
      = ((capture.modifyInterface handle ({ · with staged := none })).performAll (changes.map (.onInterface handle)),
        (capture.modifyInterface handle ({ · with staged := none })).acceptsAll
          (changes.map (.onInterface handle))) := by
  have hhandle : handle < capture.interfaces.length := (List.getElem?_eq_some_iff.mp hfound).1
  have hcleared : capture.modifyInterface handle ({ · with staged := none })
      = capture.putInterface handle capture.resources { interface with staged := none } := modifyInterface_eq hfound _
  have hid : ∀ (resources : LinkResources T) {next : BusInterface}, next.staged = none → ∀ id,
      (capture.putInterface handle resources next).perform (.onInterface handle (.changeId id))
        = (capture.putInterface handle (next.moveToId resources id).1 (next.moveToId resources id).2.1,
          (next.moveToId resources id).2.2) := by
    intro resources next hidle id
    rw [perform_onInterface (List.getElem?_set_self hhandle) rfl, putInterface_putInterface, InterfaceOperation.update,
      BusInterface.changeId, hidle]
    rfl
  have hkind : ∀ (resources : LinkResources T) {next : BusInterface}, next.staged = none → ∀ kind,
      (capture.putInterface handle resources next).perform (.onInterface handle (.changeKind kind))
        = (capture.putInterface handle resources (next.moveToKind kind).1, (next.moveToKind kind).2) := by
    intro resources next hidle kind
    rw [perform_onInterface (List.getElem?_set_self hhandle) rfl, putInterface_putInterface, InterfaceOperation.update,
      BusInterface.changeKind, hidle]
    rfl
  rw [perform_onInterface hfound rfl, hcleared, InterfaceOperation.update, BusInterface.commit_of_staged hstaged]
  obtain ⟨_ | id, _ | kind⟩ := update
  · rcases hchanges with rfl | rfl <;> rfl
  · obtain rfl : changes = [.changeKind kind] := or_self_iff.mp hchanges
    rw [List.map_singleton, performAll_singleton, acceptsAll_singleton, hkind _ rfl]
    exact Prod.ext rfl (Bool.and_true _)
  · obtain rfl : changes = [.changeId id] := or_self_iff.mp hchanges
    rw [List.map_singleton, performAll_singleton, acceptsAll_singleton, hid _ rfl]
    rfl
  · obtain rfl | rfl : changes = [.changeKind kind, .changeId id] ∨ changes = [.changeId id, .changeKind kind] :=
      hchanges
    · have hkinded : (BusInterface.moveToKind { interface with staged := none } kind).1.staged = none := by
        rw [BusInterface.moveToKind_interface]
      rw [List.map_cons, List.map_singleton, performAll_pair, acceptsAll_pair, hkind _ rfl]
      dsimp only
      rw [hid _ hkinded]
      rfl
    · have hmoved : (BusInterface.moveToId capture.resources { interface with staged := none } id).2.1.staged
          = none := by
        rw [BusInterface.moveToId_interface]
      obtain ⟨hresources, hnext, hidAccepted, hkindAccepted⟩ :=
        BusInterface.moveToId_moveToKind capture.resources { interface with staged := none } kind id
      rw [List.map_cons, List.map_singleton, performAll_pair, acceptsAll_pair, hid _ rfl]
      dsimp only
      rw [hkind _ hmoved]
      dsimp only
      rw [← hresources, ← hnext, hkindAccepted, Bool.and_comm, ← hidAccepted]
      rfl

/-! ### The statements about modules -/

/-- What the updates of a stream come to. -/
structure StreamUpdates (capture : CaptureModule T) (key : Nat) : Prop where
  /-- After the start of an update, its calls are answered `true` and change what is staged, nothing else. -/
  calls : ∀ {stream changes}, capture.streams[key]? = some stream → (∀ change ∈ changes, change.stages = true) →
    capture.performAll ((.stage :: changes).map (.onStream key))
        = capture.modifyStream key
          ({ · with staged := some (changes.foldl StreamUpdate.record (stream.staged.getD {})) })
      ∧ capture.acceptsAll ((.stage :: changes).map (.onStream key)) = true
  /-- From its start on, whatever else happens in the module, an update holds the last staged values, and the stream
  keeps its identifier and its payload type. -/
  waits : ∀ {stream operations}, capture.streams[key]? = some stream → stream.staged = none →
    capture.PermitsAll (.onStream key .stage :: operations) → .onStream key .commit ∉ operations →
    ∃ next, (capture.performAll (.onStream key .stage :: operations)).streams[key]? = some next
      ∧ next.staged = some
        { id := ((operations.filterMap (streamChange? key)).filterMap StreamOperation.stagedId?).getLast?
          payloadType := ((operations.filterMap (streamChange? key)).filterMap StreamOperation.stagedType?).getLast? }
      ∧ next.id = stream.id ∧ next.payloadType = stream.payloadType
  /-- The end of an update does what the changes do that it stands for, in either order, without an update. -/
  commit : ∀ {stream update changes}, capture.streams[key]? = some stream → stream.staged = some update →
    changes = update.changes ∨ changes = update.changes.reverse →
    capture.perform (.onStream key .commit)
      = ((capture.modifyStream key ({ · with staged := none })).performAll (changes.map (.onStream key)),
        (capture.modifyStream key ({ · with staged := none })).acceptsAll (changes.map (.onStream key)))
  /-- Each attribute takes its staged value if it can, whatever becomes of the other one. -/
  outcome : ∀ {stream update}, capture.streams[key]? = some stream → stream.staged = some update →
    ∃ next, (capture.perform (.onStream key .commit)).1.streams[key]? = some next
      ∧ CaptureStream.Outcome capture.held key update stream next (capture.perform (.onStream key .commit)).2
  /-- Once an update has ended, ending it again changes nothing. -/
  again : (capture.perform (.onStream key .commit)).1.perform (.onStream key .commit)
    = ((capture.perform (.onStream key .commit)).1, true)

/-- What the updates of an interface come to. -/
structure InterfaceUpdates (capture : CaptureModule T) (handle : Nat) : Prop where
  /-- After the start of an update, its calls are answered `true` and change what is staged, nothing else. -/
  calls : ∀ {interface changes}, capture.interfaces[handle]? = some interface →
    (∀ change ∈ changes, change.stages = true) →
    capture.performAll ((.stage :: changes).map (.onInterface handle))
        = capture.modifyInterface handle
          ({ · with staged := some (changes.foldl InterfaceUpdate.record (interface.staged.getD {})) })
      ∧ capture.acceptsAll ((.stage :: changes).map (.onInterface handle)) = true
  /-- From its start on, whatever else happens in the module, an update holds the last staged values, and the interface
  keeps its identifier and its kind. -/
  waits : ∀ {interface operations}, capture.interfaces[handle]? = some interface → interface.staged = none →
    capture.PermitsAll (.onInterface handle .stage :: operations) → .onInterface handle .commit ∉ operations →
    ∃ next, (capture.performAll (.onInterface handle .stage :: operations)).interfaces[handle]? = some next
      ∧ next.staged = some
        { id := ((operations.filterMap (interfaceChange? handle)).filterMap InterfaceOperation.stagedId?).getLast?
          kind := ((operations.filterMap (interfaceChange? handle)).filterMap InterfaceOperation.stagedKind?).getLast? }
      ∧ next.id = interface.id ∧ next.kind = interface.kind
  /-- The end of an update does what the changes do that it stands for, in either order, without an update. -/
  commit : ∀ {interface update changes}, capture.interfaces[handle]? = some interface →
    interface.staged = some update → changes = update.changes ∨ changes = update.changes.reverse →
    capture.perform (.onInterface handle .commit)
      = ((capture.modifyInterface handle ({ · with staged := none })).performAll (changes.map (.onInterface handle)),
        (capture.modifyInterface handle ({ · with staged := none })).acceptsAll (changes.map (.onInterface handle)))
  /-- Each attribute takes its staged value if it can, whatever becomes of the other one. -/
  outcome : ∀ {interface update}, capture.interfaces[handle]? = some interface → interface.staged = some update →
    ∃ next, (capture.perform (.onInterface handle .commit)).1.interfaces[handle]? = some next
      ∧ BusInterface.Outcome capture.resources.interfaceIds capture.interfaceHeld handle update interface next
        (capture.perform (.onInterface handle .commit)).2
  /-- Once an update has ended, ending it again changes nothing. -/
  again : (capture.perform (.onInterface handle .commit)).1.perform (.onInterface handle .commit)
    = ((capture.perform (.onInterface handle .commit)).1, true)

/-- Every live stream of a well-kept module goes through its updates as told. -/
theorem WellKept.streamUpdates (h : capture.WellKept)
    (hdata : ∀ stream ∈ capture.streams, stream.payloadType.isData = true) (hlive : capture.Live key) :
    StreamUpdates capture key where
  calls := by
    intro stream changes hstream hstages
    have hkey : key < capture.streams.length := (List.getElem?_eq_some_iff.mp hstream).1
    have hstarted : capture.perform (.onStream key .stage)
        = (capture.putStream key capture.resources stream.stage, true) := perform_onStream hstream rfl
    have hset : (capture.putStream key capture.resources stream.stage).streams[key]? = some stream.stage :=
      List.getElem?_set_self hkey
    obtain ⟨hperform, haccepts⟩ := performAll_calls hset rfl hstages
    rw [List.map_cons]
    constructor
    · show (capture.perform _).1.performAll _ = _
      rw [hstarted, hperform, putStream_putStream, modifyStream_eq hstream]
      rfl
    · rw [acceptsAll, hstarted, haccepts]
      rfl
  waits := by
    intro stream operations hstream hidle hpermits hcommit
    have hkey : key < capture.streams.length := (List.getElem?_eq_some_iff.mp hstream).1
    obtain ⟨hfirst, hrest⟩ := hpermits
    have hstarted : capture.perform (.onStream key .stage)
        = (capture.putStream key capture.resources stream.stage, true) := perform_onStream hstream rfl
    have hempty : stream.stage.staged = some {} := by
      rw [CaptureStream.stage, hidle]
      rfl
    have hstage : (capture.perform (.onStream key .stage)).1.streams[key]? = some stream.stage := by
      rw [hstarted]
      exact List.getElem?_set_self hkey
    obtain ⟨next, hnext, hlast, hlabel⟩ := performAll_staged (h.perform hfirst) hrest hcommit hstage hempty
    rw [StreamUpdate.foldl_record] at hlast
    exact ⟨next, hnext, hlast, congrArg StreamLabel.id hlabel, congrArg StreamLabel.payloadType hlabel⟩
  commit hstream hstaged hchanges := perform_commit_eq h hlive hstream hstaged hchanges
  outcome := by
    intro stream update hstream hstaged
    have hkey : key < capture.streams.length := (List.getElem?_eq_some_iff.mp hstream).1
    have hheld : capture.held key = some stream.label := held_eq_some.mpr ⟨hlive, stream, hstream, rfl⟩
    rw [perform_onStream hstream rfl]
    exact ⟨_, List.getElem?_set_self hkey,
      CaptureStream.commit_outcome h.inStep hheld (hdata stream (List.mem_of_getElem? hstream)) hstaged⟩
  again := by
    obtain ⟨stream, hstream, hheld⟩ := h.live hlive
    have hkey : key < capture.streams.length := (List.getElem?_eq_some_iff.mp hstream).1
    have hidle : (stream.commit capture.resources).2.1.staged = none := by
      cases hstaged : stream.staged with
      | none =>
        rw [CaptureStream.commit, hstaged]
        exact hstaged
      | some update =>
        exact (CaptureStream.commit_outcome h.inStep hheld (hdata stream (List.mem_of_getElem? hstream)) hstaged).idle
    rw [perform_onStream hstream rfl, perform_onStream (List.getElem?_set_self hkey) rfl, putStream_putStream]
    rw [StreamOperation.update, StreamOperation.update, CaptureStream.commit, hidle]
    rfl

/-- Every interface of a well-kept module goes through its updates as told. -/
theorem WellKept.interfaceUpdates (h : capture.WellKept)
    (hdata : ∀ interface ∈ capture.interfaces, interface.kind.isData = true) (hlisted : handle ∈ capture.listed) :
    InterfaceUpdates capture handle where
  calls := by
    intro interface changes hfound hstages
    have hhandle : handle < capture.interfaces.length := (List.getElem?_eq_some_iff.mp hfound).1
    have hstarted : capture.perform (.onInterface handle .stage)
        = (capture.putInterface handle capture.resources interface.stage, true) := perform_onInterface hfound rfl
    have hset : (capture.putInterface handle capture.resources interface.stage).interfaces[handle]?
        = some interface.stage := List.getElem?_set_self hhandle
    obtain ⟨hperform, haccepts⟩ := performAll_callsInterface hset rfl hstages
    rw [List.map_cons]
    constructor
    · show (capture.perform _).1.performAll _ = _
      rw [hstarted, hperform, putInterface_putInterface, modifyInterface_eq hfound]
      rfl
    · rw [acceptsAll, hstarted, haccepts]
      rfl
  waits := by
    intro interface operations hfound hidle hpermits hcommit
    have hhandle : handle < capture.interfaces.length := (List.getElem?_eq_some_iff.mp hfound).1
    obtain ⟨hfirst, hrest⟩ := hpermits
    have hstarted : capture.perform (.onInterface handle .stage)
        = (capture.putInterface handle capture.resources interface.stage, true) := perform_onInterface hfound rfl
    have hempty : interface.stage.staged = some {} := by
      rw [BusInterface.stage, hidle]
      rfl
    have hstage : (capture.perform (.onInterface handle .stage)).1.interfaces[handle]? = some interface.stage := by
      rw [hstarted]
      exact List.getElem?_set_self hhandle
    obtain ⟨next, hnext, hlast, hkept⟩ := performAll_stagedInterface (h.perform hfirst) hrest hcommit hstage hempty
    rw [InterfaceUpdate.foldl_record] at hlast
    exact ⟨next, hnext, hlast, hkept⟩
  commit hfound hstaged hchanges := perform_commit_eqInterface hfound hstaged hchanges
  outcome := by
    intro interface update hfound hstaged
    have hhandle : handle < capture.interfaces.length := (List.getElem?_eq_some_iff.mp hfound).1
    have hheld : capture.interfaceHeld handle = some interface.id :=
      interfaceHeld_eq_some.mpr ⟨hlisted, interface, hfound, rfl⟩
    rw [perform_onInterface hfound rfl]
    exact ⟨_, List.getElem?_set_self hhandle,
      BusInterface.commit_outcome h.interfaceIds hheld (hdata interface (List.mem_of_getElem? hfound)) hstaged⟩
  again := by
    obtain ⟨interface, hfound, hheld⟩ := h.listed hlisted
    have hhandle : handle < capture.interfaces.length := (List.getElem?_eq_some_iff.mp hfound).1
    have hidle : (interface.commit capture.resources).2.1.staged = none := by
      cases hstaged : interface.staged with
      | none =>
        rw [BusInterface.commit, hstaged]
        exact hstaged
      | some update =>
        exact (BusInterface.commit_outcome h.interfaceIds hheld (hdata interface (List.mem_of_getElem? hfound))
          hstaged).idle
    rw [perform_onInterface hfound rfl, perform_onInterface (List.getElem?_set_self hhandle) rfl,
      putInterface_putInterface]
    rw [InterfaceOperation.update, InterfaceOperation.update, BusInterface.commit, hidle]
    rfl

/-- Updates of the live streams and of the interfaces of every reachable module: the calls of an update only collect,
and its end does what the changes with the last values do at that moment. -/
theorem reachable_updates (h : Reachable capture) :
    (∀ key, capture.Live key → StreamUpdates capture key)
      ∧ ∀ handle ∈ capture.listed, InterfaceUpdates capture handle :=
  ⟨fun _ hlive => h.wellKept.streamUpdates h.isData_payloadType hlive,
    fun _ hlisted => h.wellKept.interfaceUpdates h.isData_kind hlisted⟩

/-- A module with two streams; the first one is about to take the identifier of the second one and another payload
type. -/
def updatingBench : CaptureModule LoopbackQueue :=
  bench.performAll [.addInterface .can none, .onInterface 0 (.addStream .can none),
    .onInterface 0 (.addStream .can none), .onStream 0 .stage, .onStream 0 (.changeId 7), .onStream 0 (.changeId 2),
    .onStream 0 (.changePayloadType .canFd)]

theorem reachable_updatingBench : Reachable updatingBench :=
  .perform (.perform (.perform (.perform (.perform (.perform (.perform (.create create_bench) trivial)
    (by decide +kernel)) (by decide +kernel)) (by decide +kernel)) (by decide +kernel)) (by decide +kernel))
    (by decide +kernel)

/-- The identifier is taken and stays as it was, the payload type changes, and the answer says so. -/
theorem reachable_updates_updatingBench :
    Reachable updatingBench ∧ updatingBench.Live 0 ∧ InterfaceUpdates updatingBench 0
      ∧ ∃ stream next, updatingBench.streams[0]? = some stream
        ∧ stream.staged = some { id := some 2, payloadType := some .canFd }
        ∧ (updatingBench.perform (.onStream 0 .commit)).1.streams[0]? = some next
        ∧ stream.id = 1 ∧ next.id = 1 ∧ next.payloadType = .canFd
        ∧ (updatingBench.perform (.onStream 0 .commit)).2 = false := by
  have hlive : updatingBench.Live 0 := by decide +kernel
  have hlisted : 0 ∈ updatingBench.listed := by decide +kernel
  obtain ⟨hstreams, hinterfaces⟩ := reachable_updates reachable_updatingBench
  have hfound : (updatingBench.streams[0]?).map (fun stream => (stream.id, stream.staged))
      = some (1, some { id := some 2, payloadType := some .canFd }) := by decide +kernel
  obtain ⟨stream, hstream, hpair⟩ := Option.map_eq_some_iff.mp hfound
  obtain ⟨hid, hstaged⟩ := Prod.mk.inj hpair
  obtain ⟨next, hnext, houtcome⟩ := (hstreams 0 hlive).outcome hstream hstaged
  -- a data type is usable, so that the payload type is the staged one
  have htype : next.payloadType = .canFd := by
    rcases houtcome.payloadType with ⟨value, hvalue, -, hnew⟩ | ⟨hunusable, -⟩
    · exact hnew.trans (Option.some.inj hvalue).symm
    · exact (hunusable .canFd rfl rfl).elim
  have hanswer : (updatingBench.perform (.onStream 0 .commit)).2 = false := by decide +kernel
  have hkept : next.id = 1 := by
    rcases houtcome.id with ⟨value, hvalue, -, hnew⟩ | ⟨-, hold⟩
    · obtain rfl : value = 2 := (Option.some.inj hvalue).symm
      have htrue : (updatingBench.perform (.onStream 0 .commit)).2 = true :=
        houtcome.accepted.mpr ⟨forall_mem_some.mpr hnew, forall_mem_some.mpr htype⟩
      rw [hanswer] at htrue
      cases htrue
    · exact hold.trans hid
  exact ⟨reachable_updatingBench, hlive, hinterfaces 0 hlisted, stream, next, hstream, hstaged, hnext, hid, hkept,
    htype, hanswer⟩

end CaptureModule

end CaptureProtocol
