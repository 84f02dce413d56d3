import CaptureProtocol.Proofs.StagedChanges
import Mathlib

/-!
# Updates that are under way

* `CaptureModule.perform_onStream`, `perform_onInterface` — the calls of an update change the shared parts and their own
  stream or interface;
* `CaptureModule.performAll_recorded` — calls that are recorded one by one are recorded in order;
* `CaptureModule.performAll_calls` — so the calls alone change what is staged, nothing else;
* `CaptureModule.perform_staged`, `performAll_staged` — whatever else happens in the module, the update waits for its
  end and the attributes stay.
-/

namespace CaptureProtocol

/-! ### Updates of a module -/

namespace CaptureModule

variable {T : Type} {capture : CaptureModule T} {key handle : Nat}

/-- The module with what an operation of a stream makes of the shared parts and of the stream. -/
def putStream (capture : CaptureModule T) (key : Nat) (resources : LinkResources T) (stream : CaptureStream) :
    CaptureModule T := { capture with resources, streams := capture.streams.set key stream }

/-- The module with what an operation of an interface makes of the shared parts and of the interface. -/
def putInterface (capture : CaptureModule T) (handle : Nat) (resources : LinkResources T) (interface : BusInterface) :
    CaptureModule T := { capture with resources, interfaces := capture.interfaces.set handle interface }

theorem putStream_putStream (capture : CaptureModule T) (key : Nat) (first second : LinkResources T)
    (before after : CaptureStream) :
    (capture.putStream key first before).putStream key second after = capture.putStream key second after := by
  rw [putStream, putStream, List.set_set]
  rfl

theorem putInterface_putInterface (capture : CaptureModule T) (handle : Nat) (first second : LinkResources T)
    (before after : BusInterface) :
    (capture.putInterface handle first before).putInterface handle second after
      = capture.putInterface handle second after := by
  rw [putInterface, putInterface, List.set_set]
  rfl

variable [FrameSender T]

/-- Whether operations are permitted one after the other. -/
def PermitsAll (capture : CaptureModule T) : List (CaptureOperation T) → Prop
  | [] => True
  | operation :: operations => capture.Permits operation ∧ (capture.perform operation).1.PermitsAll operations

/-- Whether operations are all accepted, one after the other. -/
def acceptsAll (capture : CaptureModule T) : List (CaptureOperation T) → Bool
  | [] => true
  | operation :: operations => (capture.perform operation).2 && (capture.perform operation).1.acceptsAll operations

theorem performAll_singleton (capture : CaptureModule T) (operation : CaptureOperation T) :
    capture.performAll [operation] = (capture.perform operation).1 := rfl

theorem performAll_pair (capture : CaptureModule T) (first second : CaptureOperation T) :
    capture.performAll [first, second] = ((capture.perform first).1.perform second).1 := rfl

theorem acceptsAll_singleton (capture : CaptureModule T) (operation : CaptureOperation T) :
    capture.acceptsAll [operation] = (capture.perform operation).2 := Bool.and_true _

theorem acceptsAll_pair (capture : CaptureModule T) (first second : CaptureOperation T) :
    capture.acceptsAll [first, second]
      = ((capture.perform first).2 && ((capture.perform first).1.perform second).2) := by
  rw [acceptsAll, acceptsAll_singleton]

/-- What happens through the handle of a stream. -/
def streamChange? (key : Nat) : CaptureOperation T → Option StreamOperation
  | .onStream other change => if other = key then some change else none
  | _ => none

/-- What happens through the handle of an interface. -/
def interfaceChange? (handle : Nat) : CaptureOperation T → Option InterfaceOperation
  | .onInterface other change => if other = handle then some change else none
  | _ => none

theorem perform_onStream {stream : CaptureStream} (hstream : capture.streams[key]? = some stream)
    {change : StreamOperation} (hupdate : change.isUpdate = true) :
    capture.perform (.onStream key change)
      = (capture.putStream key (change.update capture.resources stream).1 (change.update capture.resources stream).2.1,
        (change.update capture.resources stream).2.2) := by
  rw [CaptureModule.perform]
  cases change with
  | stage =>
    rw [performStream, modifyStream_eq hstream]
    rfl
  | changeId | changePayloadType | commit =>
    rw [performStream, updateStream_eq hstream]
    rfl
  | connect | disconnect | send => cases hupdate

theorem perform_onInterface {interface : BusInterface} (hfound : capture.interfaces[handle]? = some interface)
    {change : InterfaceOperation} (hupdate : change.isUpdate = true) :
    capture.perform (.onInterface handle change)
      = (capture.putInterface handle (change.update capture.resources interface).1
          (change.update capture.resources interface).2.1,
        (change.update capture.resources interface).2.2) := by
  rw [CaptureModule.perform, performInterface_eq hfound hupdate, putInterface]

/-! ### Waiting for the end of an update -/

omit [FrameSender T] in
theorem streamChange?_eq_some {operation : CaptureOperation T} {change : StreamOperation} :
    streamChange? key operation = some change ↔ operation = .onStream key change := by
  constructor
  · intro h
    cases operation with
    | onStream other found =>
      rw [streamChange?, Option.ite_none_right_eq_some, Option.some.injEq] at h
      rw [h.1, h.2]
    | _ => cases h
  · rintro rfl
    rw [streamChange?, if_pos rfl]

omit [FrameSender T] in
theorem interfaceChange?_eq_some {operation : CaptureOperation T} {change : InterfaceOperation} :
    interfaceChange? handle operation = some change ↔ operation = .onInterface handle change := by
  constructor
  · intro h
    cases operation with
    | onInterface other found =>
      rw [interfaceChange?, Option.ite_none_right_eq_some, Option.some.injEq] at h
      rw [h.1, h.2]
    | _ => cases h
  · rintro rfl
    rw [interfaceChange?, if_pos rfl]

/-- While an update is under way, an operation of the stream other than its end adds to it or leaves it alone, and the
stream keeps its attributes. -/
theorem run_staged {resources : LinkResources T} {held : Nat → Option StreamLabel} {stream : CaptureStream}
    (h : resources.InStep held) (hkey : held key = some stream.label) (husable : resources.limits.Usable)
    (interfaceId : UInt32) {update : StreamUpdate} (hstaged : stream.staged = some update) {change : StreamOperation}
    (hcommit : change ≠ .commit) :
    (change.run interfaceId resources stream).2.staged = some (update.record change)
      ∧ (change.run interfaceId resources stream).2.label = stream.label := by
  cases change with
  | connect shape axis =>
    refine ⟨hstaged, ?_⟩
    show CaptureStream.label (stream.connect shape axis) = _
    rw [CaptureStream.label, CaptureStream.label, CaptureStream.payloadType, CaptureStream.connect,
      SignalInlet.connect_payloadType]
    rfl
  | disconnect =>
    refine ⟨hstaged, ?_⟩
    show CaptureStream.label stream.disconnect = _
    rw [CaptureStream.label, CaptureStream.label, CaptureStream.payloadType, CaptureStream.disconnect,
      SignalInlet.disconnect_payloadType]
    rfl
  | send batch =>
    show (stream.send resources interfaceId batch).2.1.staged = some update
      ∧ (stream.send resources interfaceId batch).2.1.label = stream.label
    rcases CaptureStream.send_cases h hkey husable interfaceId batch with
      ⟨answer, hsend, -⟩ | ⟨packets, encoder, frames, sent, -, -, -, -, -, -, ⟨error, -, hnext⟩ | ⟨-, hnext⟩⟩
    · rw [hsend]
      exact ⟨hstaged, rfl⟩
    · rw [hnext]
      exact ⟨hstaged, rfl⟩
    · rw [hnext]
      exact ⟨hstaged, rfl⟩
  | stage =>
    show some (stream.staged.getD {}) = some update ∧ _
    rw [hstaged]
    exact ⟨rfl, rfl⟩
  | changeId id =>
    rw [StreamOperation.run, CaptureStream.changeId, hstaged]
    exact ⟨rfl, rfl⟩
  | changePayloadType payloadType =>
    rw [StreamOperation.run, CaptureStream.changePayloadType, hstaged]
    exact ⟨rfl, rfl⟩
  | commit => exact (hcommit rfl).elim

/-- An operation that does not go through the handle of a stream leaves the stream as it is, or creates it. -/
theorem perform_otherStream (capture : CaptureModule T) {operation : CaptureOperation T}
    (hother : streamChange? key operation = none) :
    (capture.perform operation).1.streams[key]? = capture.streams[key]?
      ∨ capture.streams[key]? = none ∧ ∃ owner id payloadType,
        (capture.perform operation).1.streams[key]? = some { owner, id, inlet := { payloadType } } := by
  rcases capture.perform_streams operation with
    hsame | ⟨owner, id, payloadType, -, hgrown⟩ | ⟨other, found, change, rfl, -, hset⟩
  · exact .inl (by rw [hsame])
  · rw [hgrown]
    rcases lt_trichotomy key capture.streams.length with hlt | rfl | hgt
    · exact .inl (List.getElem?_append_left hlt)
    · exact .inr ⟨List.getElem?_eq_none le_rfl, owner, id, payloadType, List.getElem?_concat_length⟩
    · refine .inl ?_
      rw [List.getElem?_eq_none hgt.le, List.getElem?_eq_none]
      rw [List.length_append]
      exact hgt
  · have hne : other ≠ key := by
      rintro rfl
      rw [streamChange?_eq_some.mpr rfl] at hother
      cases hother
    exact .inl (by rw [hset, List.getElem?_set_ne hne])

/-- Nothing but the end of an update touches what a stream has staged, other than to add to it, or its attributes. -/
theorem perform_staged (h : capture.WellKept) {operation : CaptureOperation T} (hpermits : capture.Permits operation)
    (hcommit : operation ≠ .onStream key .commit) {stream : CaptureStream}
    (hstream : capture.streams[key]? = some stream)
    {update : StreamUpdate} (hstaged : stream.staged = some update) :
    ∃ next, (capture.perform operation).1.streams[key]? = some next
      ∧ next.staged = some ((streamChange? key operation).elim update update.record) ∧ next.label = stream.label := by
  have hkey : key < capture.streams.length := (List.getElem?_eq_some_iff.mp hstream).1
  cases hchange : streamChange? key operation with
  | some change =>
    rw [streamChange?_eq_some] at hchange
    subst hchange
    obtain ⟨found, hfound, hheld⟩ := h.live hpermits
    rw [hstream, Option.some.injEq] at hfound
    subst hfound
    rw [CaptureModule.perform, performStream_eq hstream]
    refine ⟨_, List.getElem?_set_self hkey, run_staged h.inStep hheld h.usable _ hstaged ?_⟩
    rintro rfl
    exact hcommit rfl
  | none =>
    rcases capture.perform_otherStream hchange with hsame | ⟨hnone, -⟩
    · exact ⟨stream, hsame.trans hstream, hstaged, rfl⟩
    · rw [hnone] at hstream
      cases hstream

/-- What is no call of an update through its handle leaves an interface alone, but for its streams and connection. -/
theorem perform_keptInterface (h : capture.WellKept) {operation : CaptureOperation T}
    (hpermits : capture.Permits operation) {interface : BusInterface}
    (hfound : capture.interfaces[handle]? = some interface)
    (hother : ∀ change, operation = .onInterface handle change → change.isUpdate = false) :
    ∃ linkStatus streams,
      (capture.perform operation).1.interfaces[handle]? = some { interface with linkStatus, streams } := by
  have hhandle : handle < capture.interfaces.length := (List.getElem?_eq_some_iff.mp hfound).1
  rcases perform_interfaces h hpermits with
    hsame | ⟨id, kind, -, hgrown⟩ | ⟨other, found, linkStatus, streams, hget, -, hset⟩
      | ⟨other, found, change, rfl, hupdate, -, hset⟩
  · exact ⟨_, _, by rw [hsame]; exact hfound⟩
  · exact ⟨_, _, by rw [hgrown, List.getElem?_append_left hhandle]; exact hfound⟩
  · by_cases hhere : other = handle
    · subst hhere
      rw [hfound, Option.some.injEq] at hget
      subst hget
      exact ⟨linkStatus, streams, by rw [hset, List.getElem?_set_self hhandle]⟩
    · exact ⟨_, _, by rw [hset, List.getElem?_set_ne hhere]; exact hfound⟩
  · have hne : other ≠ handle := by
      rintro rfl
      rw [hother change rfl] at hupdate
      cases hupdate
    exact ⟨_, _, by rw [hset, List.getElem?_set_ne hne]; exact hfound⟩

/-- Nothing but the end of an update touches what an interface has staged, other than to add to it, or its
attributes. -/
theorem perform_stagedInterface (h : capture.WellKept) {operation : CaptureOperation T}
    (hpermits : capture.Permits operation) (hcommit : operation ≠ .onInterface handle .commit)
    {interface : BusInterface} (hfound : capture.interfaces[handle]? = some interface) {update : InterfaceUpdate}
    (hstaged : interface.staged = some update) :
    ∃ next, (capture.perform operation).1.interfaces[handle]? = some next
      ∧ next.staged = some ((interfaceChange? handle operation).elim update update.record)
      ∧ next.id = interface.id ∧ next.kind = interface.kind := by
  have hhandle : handle < capture.interfaces.length := (List.getElem?_eq_some_iff.mp hfound).1
  have hkept : (∀ change, operation = .onInterface handle change → change.isUpdate = false) →
      ∃ next, (capture.perform operation).1.interfaces[handle]? = some next ∧ next.staged = some update
        ∧ next.id = interface.id ∧ next.kind = interface.kind := by
    intro hother
    obtain ⟨linkStatus, streams, hnext⟩ := perform_keptInterface h hpermits hfound hother
    exact ⟨_, hnext, hstaged, rfl, rfl⟩
  cases hchange : interfaceChange? handle operation with
  | none =>
    refine hkept fun change hsame => ?_
    rw [interfaceChange?_eq_some.mpr hsame] at hchange
    cases hchange
  | some change =>
    rw [interfaceChange?_eq_some] at hchange
    subst hchange
    have hself : ∀ other, (.onInterface handle change : CaptureOperation T) = .onInterface handle other →
        other = change := by
      intro other hsame
      cases hsame
      rfl
    cases change with
    | setLinkStatus | addStream | removeStream => exact hkept fun other hsame => by rw [hself other hsame]; rfl
    | stage =>
      rw [perform_onInterface hfound rfl]
      refine ⟨_, List.getElem?_set_self hhandle, ?_, rfl, rfl⟩
      show some (interface.staged.getD {}) = some update
      rw [hstaged]
      rfl
    | changeId | changeKind =>
      rw [perform_onInterface hfound rfl]
      refine ⟨_, List.getElem?_set_self hhandle, ?_⟩
      first
        | rw [InterfaceOperation.update, BusInterface.changeId, hstaged]
        | rw [InterfaceOperation.update, BusInterface.changeKind, hstaged]
      exact ⟨rfl, rfl, rfl⟩
    | commit => exact (hcommit rfl).elim

/-! ### Calls of an update -/

omit [FrameSender T] in
theorem putStream_self {stream : CaptureStream} (hstream : capture.streams[key]? = some stream) :
    capture.putStream key capture.resources stream = capture := by
  rw [putStream, set_eq_self hstream]

omit [FrameSender T] in
theorem putInterface_self {interface : BusInterface} (hfound : capture.interfaces[handle]? = some interface) :
    capture.putInterface handle capture.resources interface = capture := by
  rw [putInterface, set_eq_self hfound]

/-- One call of an update that is under way. -/
theorem perform_call {stream : CaptureStream} (hstream : capture.streams[key]? = some stream) {update : StreamUpdate}
    (hstaged : stream.staged = some update) {change : StreamOperation} (hstages : change.stages = true) :
    capture.perform (.onStream key change)
      = (capture.putStream key capture.resources { stream with staged := some (update.record change) }, true) := by
  cases change with
  | stage =>
    rw [perform_onStream hstream rfl, StreamOperation.update, CaptureStream.stage, hstaged]
    rfl
  | changeId id =>
    rw [perform_onStream hstream rfl, StreamOperation.update, CaptureStream.changeId, hstaged]
    rfl
  | changePayloadType payloadType =>
    rw [perform_onStream hstream rfl, StreamOperation.update, CaptureStream.changePayloadType, hstaged]
    rfl
  | connect | disconnect | send | commit => cases hstages

theorem perform_callInterface {interface : BusInterface} (hfound : capture.interfaces[handle]? = some interface)
    {update : InterfaceUpdate} (hstaged : interface.staged = some update) {change : InterfaceOperation}
    (hstages : change.stages = true) :
    capture.perform (.onInterface handle change)
      = (capture.putInterface handle capture.resources { interface with staged := some (update.record change) },
        true) := by
  cases change with
  | stage =>
    rw [perform_onInterface hfound rfl, InterfaceOperation.update, BusInterface.stage, hstaged]
    rfl
  | changeId id =>
    rw [perform_onInterface hfound rfl, InterfaceOperation.update, BusInterface.changeId, hstaged]
    rfl
  | changeKind kind =>
    rw [perform_onInterface hfound rfl, InterfaceOperation.update, BusInterface.changeKind, hstaged]
    rfl
  | setLinkStatus | addStream | removeStream | commit => cases hstages

/-- Calls that are recorded one by one are recorded in order. -/
theorem performAll_recorded {Change Update : Type} {inject : Change → CaptureOperation T} {stages : Change → Bool}
    {record : Update → Change → Update} {holding : Update → CaptureModule T}
    (hcall : ∀ update change, stages change = true →
      (holding update).perform (inject change) = (holding (record update change), true))
    {changes : List Change} (hstages : ∀ change ∈ changes, stages change = true) (update : Update) :
    (holding update).performAll (changes.map inject) = holding (changes.foldl record update)
      ∧ (holding update).acceptsAll (changes.map inject) = true := by
  induction changes generalizing update with
  | nil => exact ⟨rfl, rfl⟩
  | cons change changes ih =>
    obtain ⟨hfirst, hrest⟩ := List.forall_mem_cons.mp hstages
    obtain ⟨hperform, haccepts⟩ := ih hrest (record update change)
    rw [List.map_cons]
    constructor
    · show ((holding update).perform _).1.performAll _ = _
      rw [hcall update change hfirst]
      exact hperform
    · rw [acceptsAll, hcall update change hfirst]
      exact haccepts

theorem performAll_calls {stream : CaptureStream} (hstream : capture.streams[key]? = some stream)
    {update : StreamUpdate} (hstaged : stream.staged = some update) {changes : List StreamOperation}
    (hstages : ∀ change ∈ changes, change.stages = true) :
    capture.performAll (changes.map (.onStream key))
        = capture.putStream key capture.resources
          { stream with staged := some (changes.foldl StreamUpdate.record update) }
      ∧ capture.acceptsAll (changes.map (.onStream key)) = true := by
  have hkey : key < capture.streams.length := (List.getElem?_eq_some_iff.mp hstream).1
  have hcall : ∀ (update : StreamUpdate) (change : StreamOperation), change.stages = true →
      (capture.putStream key capture.resources { stream with staged := some update }).perform (.onStream key change)
        = (capture.putStream key capture.resources { stream with staged := some (update.record change) }, true) := by
    intro update change hstages
    rw [perform_call (List.getElem?_set_self hkey) rfl hstages, putStream_putStream]
    rfl
  have hself : capture.putStream key capture.resources { stream with staged := some update } = capture := by
    rw [← hstaged]
    exact putStream_self hstream
  have hcalls := performAll_recorded hcall hstages update
  rwa [hself] at hcalls

theorem performAll_callsInterface {interface : BusInterface} (hfound : capture.interfaces[handle]? = some interface)
    {update : InterfaceUpdate} (hstaged : interface.staged = some update) {changes : List InterfaceOperation}
    (hstages : ∀ change ∈ changes, change.stages = true) :
    capture.performAll (changes.map (.onInterface handle))
        = capture.putInterface handle capture.resources
          { interface with staged := some (changes.foldl InterfaceUpdate.record update) }
      ∧ capture.acceptsAll (changes.map (.onInterface handle)) = true := by
  have hhandle : handle < capture.interfaces.length := (List.getElem?_eq_some_iff.mp hfound).1
  have hcall : ∀ (update : InterfaceUpdate) (change : InterfaceOperation), change.stages = true →
      (capture.putInterface handle capture.resources { interface with staged := some update }).perform
          (.onInterface handle change)
        = (capture.putInterface handle capture.resources { interface with staged := some (update.record change) },
          true) := by
    intro update change hstages
    rw [perform_callInterface (List.getElem?_set_self hhandle) rfl hstages, putInterface_putInterface]
    rfl
  have hself : capture.putInterface handle capture.resources { interface with staged := some update } = capture := by
    rw [← hstaged]
    exact putInterface_self hfound
  have hcalls := performAll_recorded hcall hstages update
  rwa [hself] at hcalls

/-! ### From the start of an update on -/

theorem performAll_staged (h : capture.WellKept) {operations : List (CaptureOperation T)}
    (hpermits : capture.PermitsAll operations) (hcommit : .onStream key .commit ∉ operations) {stream : CaptureStream}
    (hstream : capture.streams[key]? = some stream) {update : StreamUpdate} (hstaged : stream.staged = some update) :
    ∃ next, (capture.performAll operations).streams[key]? = some next
      ∧ next.staged = some ((operations.filterMap (streamChange? key)).foldl StreamUpdate.record update)
      ∧ next.label = stream.label := by
  induction operations generalizing capture stream update with
  | nil => exact ⟨stream, hstream, hstaged, rfl⟩
  | cons operation operations ih =>
    obtain ⟨hfirst, hrest⟩ := hpermits
    obtain ⟨hnot, hnone⟩ := not_or.mp (mt List.mem_cons.mpr hcommit)
    obtain ⟨between, hbetween, hcollected, hlabel⟩ := perform_staged h hfirst (Ne.symm hnot) hstream hstaged
    obtain ⟨next, hnext, hlast, hkept⟩ := ih (h.perform hfirst) hrest hnone hbetween hcollected
    refine ⟨next, hnext, ?_, hkept.trans hlabel⟩
    rw [hlast, List.filterMap_cons]
    cases streamChange? key operation <;> rfl

theorem performAll_stagedInterface (h : capture.WellKept) {operations : List (CaptureOperation T)}
    (hpermits : capture.PermitsAll operations) (hcommit : .onInterface handle .commit ∉ operations)
    {interface : BusInterface} (hfound : capture.interfaces[handle]? = some interface) {update : InterfaceUpdate}
    (hstaged : interface.staged = some update) :
    ∃ next, (capture.performAll operations).interfaces[handle]? = some next
      ∧ next.staged = some ((operations.filterMap (interfaceChange? handle)).foldl InterfaceUpdate.record update)
      ∧ next.id = interface.id ∧ next.kind = interface.kind := by
  induction operations generalizing capture interface update with
  | nil => exact ⟨interface, hfound, hstaged, rfl, rfl⟩
  | cons operation operations ih =>
    obtain ⟨hfirst, hrest⟩ := hpermits
    obtain ⟨hnot, hnone⟩ := not_or.mp (mt List.mem_cons.mpr hcommit)
    obtain ⟨between, hbetween, hcollected, hid, hkind⟩ :=
      perform_stagedInterface h hfirst (Ne.symm hnot) hfound hstaged
    obtain ⟨next, hnext, hlast, hkeptId, hkeptKind⟩ := ih (h.perform hfirst) hrest hnone hbetween hcollected
    refine ⟨next, hnext, ?_, hkeptId.trans hid, hkeptKind.trans hkind⟩
    rw [hlast, List.filterMap_cons]
    cases interfaceChange? handle operation <;> rfl

end CaptureModule

end CaptureProtocol
