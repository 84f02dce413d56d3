import CaptureProtocol.Proofs.Shielding
import Mathlib

/-!
# Handles of what was removed

A handle stays usable when its stream or interface was removed, and its identifier can meanwhile belong to another
one.

* `CaptureModule.Bypasses` — an operation through such a handle, whose identifier belongs to nothing that is left;
* `CaptureModule.Untouched` — everything that belongs to the interfaces and streams of a module stays as it is;
* `Shielded.perform` — one such operation keeps the shield that the module has at the start;
* `CaptureModule.bypassed_untouched` — so any number of them leave the module untouched;
* `CaptureModule.recycled_touched` — through a handle whose identifier was given to another stream, the slot of that
  stream can be changed; `CaptureModule.touched_recycledBench` shows a module where it is.
-/

namespace CaptureProtocol

namespace CaptureModule

variable {T : Type} [FrameSender T] {start now after capture : CaptureModule T} {handle key : Nat}

/-! ### What bypasses a module -/

/-- A stream that is not in the module, and whose identifier belongs to none that is. -/
def PastStream (capture : CaptureModule T) (key : Nat) : Prop :=
  ¬ capture.Live key ∧ ∀ stream, capture.streams[key]? = some stream →
    ∀ other ∈ capture.liveStreams, other.id ≠ stream.id

/-- An interface that is not in the module, and whose identifier belongs to none that is. -/
def PastInterface (capture : CaptureModule T) (handle : Nat) : Prop :=
  handle ∉ capture.listed ∧ ∀ interface, capture.interfaces[handle]? = some interface →
    ∀ other ∈ capture.listedInterfaces, other.id ≠ interface.id

/-- An operation through the handle of a stream or an interface that is not in the module, and whose identifier belongs
to nothing that is. -/
def Bypasses (capture : CaptureModule T) : CaptureOperation T → Prop
  | .onInterface handle _ => capture.PastInterface handle
  | .onStream key _ => capture.PastStream key
  | _ => False

/-- The module after operations, one after the other. -/
def performAll (capture : CaptureModule T) (operations : List (CaptureOperation T)) : CaptureModule T :=
  operations.foldl (fun capture operation => (capture.perform operation).1) capture

/-- Whether the header of a frame names a stream that is not in the module. -/
def Disowns (capture : CaptureModule T) (frame : Bytes) : Prop :=
  ∃ header rest, FrameHeader.read frame = some (header, rest)
    ∧ ∀ stream ∈ capture.liveStreams, stream.id ≠ header.streamId

/-- The interfaces and streams of a module stay as they are, and so do their identifiers in the pools and their slots
with the numbers of their frames; only frames of other streams were sent. -/
structure Untouched (before after : CaptureModule T) : Prop where
  listed : after.listed = before.listed
  interfaces : ∀ handle ∈ before.listed, after.interfaces[handle]? = before.interfaces[handle]?
  streams : ∀ key, before.Live key → after.streams[key]? = before.streams[key]?
  interfaceIds : ∀ interface ∈ before.listedInterfaces,
    interface.id ∈ after.resources.interfaceIds.used ∧ interface.id ∉ after.resources.interfaceIds.recycled
  streamIds : ∀ stream ∈ before.liveStreams,
    stream.id.toUInt32 ∈ after.resources.streamIds.used ∧ stream.id.toUInt32 ∉ after.resources.streamIds.recycled
  slots : ∀ stream ∈ before.liveStreams,
    after.resources.encoders.encoder? stream.id.toNat = before.resources.encoders.encoder? stream.id.toNat
  frames : Relation.ReflTransGen (Hands before.Disowns) before.resources.sender after.resources.sender

/-! ### Removed interfaces have no streams -/

omit [FrameSender T] in
/-- An operation of an interface changes no other interface, and no stream that there is. -/
theorem performInterface_frame {held : Nat → Option StreamLabel} {interfaces : Nat → Option UInt32}
    (h : capture.resources.Shields held interfaces) (handle : Nat) (operation : InterfaceOperation) :
    (capture.performInterface handle operation).1.listed = capture.listed
      ∧ ∀ other, other ≠ handle →
        (capture.performInterface handle operation).1.interfaces[other]? = capture.interfaces[other]? := by
  have hmodify : ∀ (change : BusInterface → BusInterface) (other : Nat), other ≠ handle →
      (capture.interfaces.modify handle change)[other]? = capture.interfaces[other]? := fun change other hne =>
    List.getElem?_modify_ne change capture.interfaces (Ne.symm hne)
  have hupdate : ∀ {α : Type} (change : LinkResources T → BusInterface → LinkResources T × BusInterface × α),
      (capture.updateInterface handle change).1.listed = capture.listed ∧ ∀ other, other ≠ handle →
        (capture.updateInterface handle change).1.interfaces[other]? = capture.interfaces[other]? := by
    intro α change
    cases hfound : capture.interfaces[handle]? with
    | none =>
      rw [updateInterface, hfound]
      exact ⟨rfl, fun _ _ => rfl⟩
    | some interface =>
      rw [updateInterface_eq hfound]
      exact ⟨rfl, fun other hne => List.getElem?_set_ne (Ne.symm hne)⟩
  cases operation with
  | setLinkStatus | stage => exact ⟨rfl, hmodify _⟩
  | changeId id => exact hupdate fun resources interface => interface.changeId resources id
  | changeKind kind => exact hupdate fun resources interface => (resources, interface.changeKind kind)
  | commit => exact hupdate BusInterface.commit
  | addStream payloadType id =>
    rw [performInterface]
    cases hadd : capture.addStream handle payloadType id with
    | error error => exact ⟨rfl, fun _ _ => rfl⟩
    | ok found =>
      obtain ⟨holder, htracks, -⟩ := h.streamIds
      obtain ⟨granted, -, -, hafter⟩ := addStream_eq_ok htracks h.greatest h.size hadd
      show found.2.listed = _ ∧ ∀ other, other ≠ handle → found.2.interfaces[other]? = _
      rw [hafter]
      exact ⟨rfl, hmodify _⟩
  | removeStream id =>
    rw [performInterface, removeStream]
    split
    · exact ⟨rfl, fun _ _ => rfl⟩
    · exact ⟨rfl, hmodify _⟩

theorem perform_unlisted (h : capture.WellKept) {operation : CaptureOperation T} (hpermits : capture.Permits operation)
    (hbefore : ∀ handle, handle ∉ capture.listed → capture.streamsAt handle = []) :
    ∀ handle, handle ∉ (capture.perform operation).1.listed → (capture.perform operation).1.streamsAt handle = [] := by
  have hreports : ∀ uptime handle, handle ∉ (capture.sendReports uptime).1.listed →
      (capture.sendReports uptime).1.streamsAt handle = [] := by
    intro uptime
    obtain ⟨resources, hafter, -⟩ := capture.sendReports_books uptime
    rw [hafter]
    exact hbefore
  cases operation with
  | updateDevice | startReporting | stopReporting | replaceSender => exact hbefore
  | sendReports uptime => exact hreports uptime
  | reportOnce uptime =>
    show ∀ handle, handle ∉ (capture.reportOnce uptime).listed → (capture.reportOnce uptime).streamsAt handle = []
    rw [reportOnce]
    split
    · exact hreports uptime
    · exact hbefore
  | addInterface kind id =>
    rw [CaptureModule.perform]
    cases hadd : capture.addInterface kind id with
    | error error => exact hbefore
    | ok found =>
      obtain ⟨granted, -, -, hafter⟩ := addInterface_eq_ok h.interfaceIds hadd
      intro handle hunlisted
      show found.2.streamsAt handle = []
      have hold : handle ∉ found.2.listed := hunlisted
      have hinterfaces : found.2.interfaces = capture.interfaces ++ [{ id := granted, kind := kind }] := by rw [hafter]
      rw [hafter, List.mem_append, not_or] at hold
      rw [streamsAt_concat rfl hinterfaces]
      exact hbefore handle hold.1
  | removeInterface id =>
    rw [CaptureModule.perform]
    cases hremove : capture.removeInterface id with
    | error error => exact hbefore
    | ok found =>
      obtain ⟨gone, interface, hlisted, hfound, -, hafter⟩ := removeInterface_eq_ok hremove
      intro handle hunlisted
      show found.streamsAt handle = []
      have hold : handle ∉ found.listed := hunlisted
      rw [streamsAt_set _ (h.listed_created hlisted) (by rw [hafter])]
      by_cases hsame : handle = gone
      · rw [hsame, Function.update_self]
      · rw [Function.update_of_ne hsame]
        rw [hafter] at hold
        exact hbefore handle fun hmem => hold ((List.mem_erase_of_ne hsame).mpr hmem)
  | onStream key operation =>
    obtain ⟨stream, hstream, -⟩ := h.live hpermits
    rw [CaptureModule.perform, performStream_eq hstream]
    exact hbefore
  | onInterface owner operation =>
    obtain ⟨hlisted, hothers⟩ := performInterface_frame (h.inStep.shields h.interfaceIds) owner operation
    intro handle hunlisted
    rw [CaptureModule.perform] at hunlisted ⊢
    rw [hlisted] at hunlisted
    have hother : handle ≠ owner := fun hsame => hunlisted (hsame ▸ hpermits)
    rw [streamsAt, hothers handle hother]
    exact hbefore handle hunlisted

/-- An interface that is not in the module has no streams. -/
theorem Reachable.streamsAt_of_unlisted (h : Reachable capture) (hunlisted : handle ∉ capture.listed) :
    capture.streamsAt handle = [] := by
  induction h generalizing handle with
  | @create config device sender capture hcreate =>
    rw [CaptureModule.create] at hcreate
    cases hvalidate : config.validate with
    | error error =>
      rw [hvalidate] at hcreate
      cases hcreate
    | ok accepted =>
      rw [hvalidate] at hcreate
      cases hcreate
      rfl
  | perform hreachable hpermits ih =>
    exact perform_unlisted hreachable.wellKept hpermits (fun _ hbefore => ih hbefore) _ hunlisted

/-! ### The shield of a module -/

/-- What a module had at the start is left alone, and what was past at the start still has identifiers of its own. -/
structure Shielded (start now : CaptureModule T) : Prop where
  listed : now.listed = start.listed
  interfaces : ∀ {handle}, handle ∈ start.listed → now.interfaces[handle]? = start.interfaces[handle]?
  streams : ∀ {key}, start.Live key → now.streams[key]? = start.streams[key]?
  created : start.streams.length ≤ now.streams.length
  spares : LinkResources.Spares start.held start.interfaceHeld start.resources now.resources
  pastStreams : ∀ {key stream}, start.PastStream key → now.streams[key]? = some stream →
    LinkResources.Foreign start.held stream.id
  pastInterfaces : ∀ {handle interface}, start.PastInterface handle → now.interfaces[handle]? = some interface →
    (∀ other, start.interfaceHeld other ≠ some interface.id) ∧ ∀ key ∈ interface.streams, start.PastStream key

theorem Shielded.refl (h : Reachable start) : Shielded start start where
  listed := rfl
  interfaces _ := rfl
  streams _ := rfl
  created := le_rfl
  spares := (h.wellKept.inStep.shields h.wellKept.interfaceIds).spares
  pastStreams := by
    intro key stream hpast hstream holding label hheld
    obtain ⟨other, hother, rfl⟩ := exists_liveStream hheld
    exact hpast.2 stream hstream other hother
  pastInterfaces := by
    intro handle interface hpast hfound
    refine ⟨fun holding hheld => ?_, fun key hkey => ?_⟩
    · obtain ⟨hlisted, other, hother, hid⟩ := interfaceHeld_eq_some.mp hheld
      exact hpast.2 interface hfound other (List.mem_filterMap.mpr ⟨holding, hlisted, hother⟩) hid
    · rw [← streamsAt_of_getElem? hfound, h.streamsAt_of_unlisted hpast.1] at hkey
      exact (List.not_mem_nil hkey).elim

omit [FrameSender T] in
theorem pastStream_of_length_le (h : start.WellKept) (hkey : start.streams.length ≤ key) : start.PastStream key := by
  refine ⟨fun hlive => ?_, fun stream hstream => ?_⟩
  · obtain ⟨stream, hstream, -⟩ := h.live hlive
    exact Nat.not_lt_of_le hkey (List.getElem?_eq_some_iff.mp hstream).1
  · rw [List.getElem?_eq_none hkey] at hstream
    cases hstream

/-- An operation of a past stream. -/
theorem Shielded.setStream (h : Shielded start now) (hpast : start.PastStream key) {stream next : CaptureStream}
    (hstream : now.streams[key]? = some stream) {resources : LinkResources T}
    (hpasses : CaptureStream.Passes start.held start.interfaceHeld now.resources resources next) :
    Shielded start { now with resources, streams := now.streams.set key next } where
  listed := h.listed
  interfaces := h.interfaces
  streams := by
    intro other hlive
    have hne : key ≠ other := fun hsame => hpast.1 (hsame ▸ hlive)
    exact (List.getElem?_set_ne hne).trans (h.streams hlive)
  created := by
    rw [List.length_set]
    exact h.created
  spares := h.spares.trans hpasses.spares
  pastStreams := by
    intro other found hother hfound
    by_cases hsame : key = other
    · subst hsame
      rw [List.getElem?_set_self (List.getElem?_eq_some_iff.mp hstream).1, Option.some.injEq] at hfound
      rw [← hfound]
      exact hpasses.foreign
    · rw [List.getElem?_set_ne hsame] at hfound
      exact h.pastStreams hother hfound
  pastInterfaces := h.pastInterfaces

/-- An operation of a past interface. -/
theorem Shielded.setInterface (h : Shielded start now) (hpast : start.PastInterface handle)
    {interface next : BusInterface} (hfound : now.interfaces[handle]? = some interface) {resources : LinkResources T}
    (hpasses : BusInterface.Passes start.held start.interfaceHeld now.resources interface resources next) :
    Shielded start { now with resources, interfaces := now.interfaces.set handle next } where
  listed := h.listed
  interfaces := by
    intro other hlisted
    have hne : handle ≠ other := fun hsame => hpast.1 (hsame ▸ hlisted)
    exact (List.getElem?_set_ne hne).trans (h.interfaces hlisted)
  streams := h.streams
  created := h.created
  spares := h.spares.trans hpasses.spares
  pastStreams := h.pastStreams
  pastInterfaces := by
    intro other found hother hget
    by_cases hsame : handle = other
    · subst hsame
      rw [List.getElem?_set_self (List.getElem?_eq_some_iff.mp hfound).1, Option.some.injEq] at hget
      rw [← hget, hpasses.streams]
      exact ⟨hpasses.foreign, (h.pastInterfaces hpast hfound).2⟩
    · rw [List.getElem?_set_ne hsame] at hget
      exact h.pastInterfaces hother hget

/-- A past interface gets other streams, all of them past. -/
theorem Shielded.restream (h : Shielded start now) (hpast : start.PastInterface handle) {resources : LinkResources T}
    (added : List CaptureStream) (change : List Nat → List Nat)
    (hspares : LinkResources.Spares start.held start.interfaceHeld now.resources resources)
    (hadded : ∀ stream ∈ added, LinkResources.Foreign start.held stream.id)
    (hchange : ∀ keys, (∀ key ∈ keys, start.PastStream key) → ∀ key ∈ change keys, start.PastStream key)
    (hkeeps : start.WellKept) :
    Shielded start { now with
      resources
      streams := now.streams ++ added
      interfaces := now.interfaces.modify handle fun interface =>
        { interface with streams := change interface.streams } } where
  listed := h.listed
  interfaces := by
    intro other hlisted
    have hne : handle ≠ other := fun hsame => hpast.1 (hsame ▸ hlisted)
    exact (List.getElem?_modify_ne _ _ hne).trans (h.interfaces hlisted)
  streams := by
    intro other hlive
    obtain ⟨stream, hstream, -⟩ := hkeeps.live hlive
    have hnow := (h.streams hlive).trans hstream
    exact (List.getElem?_append_left (List.getElem?_eq_some_iff.mp hnow).1).trans (h.streams hlive)
  created := by
    rw [List.length_append]
    exact h.created.trans (Nat.le_add_right _ _)
  spares := h.spares.trans hspares
  pastStreams := by
    intro other stream hother hstream
    by_cases hold : other < now.streams.length
    · rw [List.getElem?_append_left hold] at hstream
      exact h.pastStreams hother hstream
    · rw [List.getElem?_append_right (Nat.le_of_not_lt hold)] at hstream
      exact hadded stream (List.mem_of_getElem? hstream)
  pastInterfaces := by
    intro other found hother hget
    by_cases hsame : handle = other
    · subst hsame
      rw [List.getElem?_modify_eq, Option.map_eq_map, Option.map_eq_some_iff] at hget
      obtain ⟨interface, hfound, rfl⟩ := hget
      obtain ⟨hforeign, hstreams⟩ := h.pastInterfaces hpast hfound
      exact ⟨hforeign, hchange _ hstreams⟩
    · rw [List.getElem?_modify_ne _ _ hsame] at hget
      exact h.pastInterfaces hother hget

/-! ### Every operation keeps the shield -/

theorem Shielded.performStream (h : Shielded start now) (hpast : start.PastStream key) (operation : StreamOperation) :
    Shielded start (now.performStream key operation).1 := by
  cases hstream : now.streams[key]? with
  | none =>
    rw [performStream_of_none hstream]
    exact h
  | some stream =>
    rw [performStream_eq hstream]
    exact h.setStream hpast hstream (operation.run_passes h.spares.shields (h.pastStreams hpast hstream) _)

theorem Shielded.updateInterface {α : Type} (h : Shielded start now) (hpast : start.PastInterface handle)
    (change : LinkResources T → BusInterface → LinkResources T × BusInterface × α)
    (hchange : ∀ interface, (∀ other, start.interfaceHeld other ≠ some interface.id) →
      BusInterface.Passes start.held start.interfaceHeld now.resources interface (change now.resources interface).1
        (change now.resources interface).2.1) :
    Shielded start (now.updateInterface handle change).1 := by
  cases hfound : now.interfaces[handle]? with
  | none =>
    rw [CaptureModule.updateInterface, hfound]
    exact h
  | some interface =>
    rw [updateInterface_eq hfound]
    exact h.setInterface hpast hfound (hchange interface (h.pastInterfaces hpast hfound).1)

theorem Shielded.modifyInterface (h : Shielded start now) (hpast : start.PastInterface handle)
    {change : BusInterface → BusInterface} (hid : ∀ interface, (change interface).id = interface.id)
    (hstreams : ∀ interface, (change interface).streams = interface.streams) :
    Shielded start (now.modifyInterface handle change) := by
  cases hfound : now.interfaces[handle]? with
  | none =>
    rw [CaptureModule.modifyInterface, List.modify_eq_self (List.getElem?_eq_none_iff.mp hfound)]
    exact h
  | some interface =>
    rw [modifyInterface_eq hfound]
    exact h.setInterface hpast hfound (BusInterface.passes_of_id h.spares.shields (h.pastInterfaces hpast hfound).1
      (hid interface) (hstreams interface))

theorem Shielded.performInterface (h : Shielded start now) (hkeeps : start.WellKept)
    (hpast : start.PastInterface handle) (operation : InterfaceOperation) :
    Shielded start (now.performInterface handle operation).1 := by
  cases operation with
  | addStream payloadType id =>
    rw [CaptureModule.performInterface]
    cases hadd : now.addStream handle payloadType id with
    | error error => exact h
    | ok found =>
      obtain ⟨holder, htracks, -⟩ := h.spares.shields.streamIds
      obtain ⟨granted, hcovers, hfree, hafter⟩ :=
        addStream_eq_ok htracks h.spares.shields.greatest h.spares.shields.size hadd
      show Shielded start found.2
      rw [hafter]
      have hnew : LinkResources.Foreign start.held granted := h.spares.shields.foreign_of_free hfree
      have hused := h.spares.shields.occupy hcovers hfree
      refine h.restream hpast [_] (· ++ [now.streams.length]) (hused.trans (hused.shields.bind hnew
        (StreamLabel.binding now.resources.deviceId ⟨granted, payloadType⟩) rfl)) ?_ ?_ hkeeps
      · intro stream hstream
        rw [List.mem_singleton.mp hstream]
        exact hnew
      · intro keys hkeys key hkey
        rcases List.mem_append.mp hkey with hold | hlast
        · exact hkeys key hold
        · rw [List.mem_singleton.mp hlast]
          exact pastStream_of_length_le hkeeps h.created
  | removeStream id =>
    rw [CaptureModule.performInterface, removeStream]
    cases hfound : now.interfaces[handle]? with
    | none => exact h
    | some interface =>
      rw [Option.bind_some]
      cases hsearch : now.findStream interface id with
      | none => exact h
      | some gone =>
        obtain ⟨hmem, stream, hstream, rfl⟩ := findStream_eq_some hsearch
        have hforeign : LinkResources.Foreign start.held stream.id :=
          h.pastStreams ((h.pastInterfaces hpast hfound).2 gone hmem) hstream
        have hrestreamed := h.restream hpast [] (·.erase gone) (h.spares.shields.releaseStream hforeign)
          (List.forall_mem_nil _) (fun keys hkeys key hkey => hkeys key (List.mem_of_mem_erase hkey)) hkeeps
        rw [List.append_nil] at hrestreamed
        exact hrestreamed
  | setLinkStatus | stage => exact h.modifyInterface hpast (fun _ => rfl) fun _ => rfl
  | changeId id =>
    refine h.updateInterface hpast (fun resources interface => interface.changeId resources id) ?_
    intro interface hforeign
    exact BusInterface.changeId_passes h.spares.shields hforeign id
  | changeKind kind =>
    refine h.updateInterface hpast (fun resources interface => (resources, interface.changeKind kind)) ?_
    intro interface hforeign
    obtain ⟨hid, hstreams⟩ := BusInterface.changeKind_id interface kind
    exact BusInterface.passes_of_id h.spares.shields hforeign hid hstreams
  | commit =>
    refine h.updateInterface hpast BusInterface.commit ?_
    intro interface hforeign
    exact BusInterface.commit_passes h.spares.shields hforeign

theorem Shielded.perform (h : Shielded start now) (hkeeps : start.WellKept) {operation : CaptureOperation T}
    (hbypasses : start.Bypasses operation) : Shielded start (now.perform operation).1 := by
  cases operation with
  | onInterface handle operation => exact h.performInterface hkeeps hbypasses operation
  | onStream key operation => exact h.performStream hbypasses operation
  | _ => exact hbypasses.elim

theorem Shielded.performAll (h : Shielded start now) (hkeeps : start.WellKept) {operations : List (CaptureOperation T)}
    (hbypass : ∀ operation ∈ operations, start.Bypasses operation) : Shielded start (now.performAll operations) := by
  induction operations generalizing now with
  | nil => exact h
  | cons operation operations ih =>
    obtain ⟨hfirst, hrest⟩ := List.forall_mem_cons.mp hbypass
    exact ih (h.perform hkeeps hfirst) hrest

theorem Shielded.untouched (h : Shielded start now) : Untouched start now where
  listed := h.listed
  interfaces _ := h.interfaces
  streams _ := h.streams
  interfaceIds := by
    intro interface hmem
    obtain ⟨handle, hlisted, hfound⟩ := List.mem_filterMap.mp hmem
    exact h.spares.shields.interfaceIds.mem (interfaceHeld_eq_some.mpr ⟨hlisted, interface, hfound, rfl⟩)
  streamIds := by
    intro stream hmem
    obtain ⟨key, hheld⟩ := exists_held hmem
    exact h.spares.shields.streamIds.mem (Option.map_eq_some_iff.mpr ⟨_, hheld, rfl⟩)
  slots := by
    intro stream hmem
    obtain ⟨key, hheld⟩ := exists_held hmem
    exact h.spares.slots hheld
  frames := by
    refine Relation.ReflTransGen.mono ?_ _ _ h.spares.frames
    rintro before after ⟨frame, ⟨header, rest, hread, hother⟩, rfl⟩
    refine ⟨frame, ⟨header, rest, hread, fun stream hmem => ?_⟩, rfl⟩
    obtain ⟨key, hheld⟩ := exists_held hmem
    exact hother hheld

/-- Operations through handles of what is not in the module, and whose identifiers belong to nothing that is, leave the
module untouched. -/
theorem bypassed_untouched (h : Reachable capture) {operations : List (CaptureOperation T)}
    (hbypass : ∀ operation ∈ operations, capture.Bypasses operation) :
    Untouched capture (capture.performAll operations) :=
  ((Shielded.refl h).performAll h.wellKept hbypass).untouched

/-- Two streams were added, the first of them was removed in between: its identifier 1 is free, the second one has 2. -/
def halfEmptyBench : CaptureModule LoopbackQueue :=
  bench.performAll [.addInterface .can none, .onInterface 0 (.addStream .can (some 1)),
    .onInterface 0 (.addStream .can (some 2)), .onInterface 0 (.removeStream 1)]

theorem reachable_halfEmptyBench : Reachable halfEmptyBench :=
  .perform (.perform (.perform (.perform (.create create_bench) trivial) (by decide +kernel)) (by decide +kernel))
    (by decide +kernel)

/-- The removed stream takes a free identifier and another payload type, and the module does not notice. -/
theorem bypassed_untouched_halfEmptyBench :
    Reachable halfEmptyBench ∧ halfEmptyBench.liveStreams.map CaptureStream.id = [2]
      ∧ Untouched halfEmptyBench
        (halfEmptyBench.performAll [.onStream 0 (.changeId 7), .onStream 0 (.changePayloadType .canFd)]) := by
  have hids : halfEmptyBench.liveStreams.map CaptureStream.id = [2] := by decide +kernel
  have hgone : (halfEmptyBench.streams[0]?).map CaptureStream.id = some 1 := by decide +kernel
  have hpast : halfEmptyBench.PastStream 0 := by
    refine ⟨by decide +kernel, fun stream hstream other hother hsame => ?_⟩
    have hid : stream.id = 1 := by
      rw [hstream, Option.map_some, Option.some.injEq] at hgone
      exact hgone
    have hmem : other.id ∈ halfEmptyBench.liveStreams.map CaptureStream.id := List.mem_map_of_mem hother
    rw [hids, hsame, hid] at hmem
    exact absurd hmem (by decide)
  refine ⟨reachable_halfEmptyBench, hids, bypassed_untouched reachable_halfEmptyBench ?_⟩
  intro operation hmem
  rcases List.mem_pair.mp hmem with rfl | rfl
  · exact hpast
  · exact hpast

end CaptureModule

/-! ### Recycled identifiers -/

namespace CaptureStream

variable {T : Type} {resources : LinkResources T} {stream : CaptureStream} {encoder : Encoder}
  {payloadType : PayloadType}

theorem moveToPayloadType_of_encoder? (hencoder : resources.encoders.encoder? stream.id.toNat = some encoder)
    (hdata : payloadType.isData = true) :
    moveToPayloadType resources stream payloadType
      = ({ resources with
            encoders := resources.encoders.put stream.id.toNat
              (some { encoder with payloadType := some payloadType }) },
          { stream with inlet := stream.inlet.retype payloadType }, true) := by
  rw [moveToPayloadType, if_pos hdata, EncoderRack.retype, EncoderRack.bound_eq_ok.mpr hencoder]
  rfl

/-- A stream that takes another identifier leaves its slot as it is or empties it. -/
theorem moveToId_slot (hsize : resources.encoders.size = EncoderRack.streamCount) (stream : CaptureStream)
    (id : UInt8) :
    ∀ bound ∈ (moveToId resources stream id).1.encoders.encoder? stream.id.toNat,
      bound ∈ resources.encoders.encoder? stream.id.toNat := by
  rcases moveToId_cases hsize stream id with ⟨applied, hmove⟩ | ⟨-, -, hmove⟩
  · rw [hmove]
    exact fun _ hbound => hbound
  · rw [hmove]
    dsimp only
    rw [EncoderRack.release, EncoderRack.encoder?_put, if_pos rfl]
    · exact fun bound hbound => (Option.not_mem_none bound hbound).elim
    · rw [EncoderRack.size_put, hsize]
      exact stream.id.toNat_lt

/-- Whether an update is under way or not, a new payload type reaches the slot when the update ends. -/
theorem retyped_slot (hsize : resources.encoders.size = EncoderRack.streamCount)
    (hencoder : resources.encoders.encoder? stream.id.toNat = some encoder) (hdata : payloadType.isData = true) :
    let (between, changed, _) := stream.changePayloadType resources payloadType
    ∀ bound ∈ (changed.commit between).1.encoders.encoder? stream.id.toNat, bound.payloadType = some payloadType := by
  have hslot : stream.id.toNat < resources.encoders.size := by
    rw [hsize]
    exact stream.id.toNat_lt
  have hretyped : ∀ bound ∈ (resources.encoders.put stream.id.toNat
      (some { encoder with payloadType := some payloadType })).encoder? stream.id.toNat,
      bound.payloadType = some payloadType := by
    rw [EncoderRack.encoder?_put hslot, if_pos rfl]
    rintro bound hbound
    rw [← Option.mem_some_iff.mp hbound]
  cases hstaged : stream.staged with
  | none =>
    rw [changePayloadType, hstaged]
    dsimp only
    rw [moveToPayloadType_of_encoder? hencoder hdata, commit, hstaged]
    exact hretyped
  | some update =>
    have hmove := @moveToPayloadType_of_encoder? T resources { stream with staged := none } encoder payloadType
      hencoder hdata
    rw [changePayloadType, hstaged]
    dsimp only
    rw [commit]
    dsimp only [applyStaged]
    rw [hmove]
    cases update.id with
    | none => exact hretyped
    | some id =>
      intro bound hbound
      refine hretyped bound (moveToId_slot ?_ _ id bound hbound)
      exact (EncoderRack.size_put _).trans hsize

end CaptureStream

namespace CaptureModule

variable {T : Type} [FrameSender T] {capture : CaptureModule T} {key : Nat}

/-- Through the handle of a stream, removed or not, the slot of the live stream with its identifier can be changed. -/
theorem recycled_touched (h : Reachable capture) {stream other : CaptureStream}
    (hstream : capture.streams[key]? = some stream) (hother : other ∈ capture.liveStreams)
    (hrecycled : stream.id = other.id) :
    ∃ payloadType, ¬ Untouched capture
      (capture.performAll [.onStream key (.changePayloadType payloadType), .onStream key .commit]) := by
  obtain ⟨holding, hheld⟩ := exists_held hother
  obtain ⟨encoder, hencoder, -⟩ := CaptureStream.exists_encoder h.wellKept.inStep hheld
  obtain ⟨payloadType, hdata, hnew⟩ : ∃ payloadType : PayloadType, payloadType.isData = true
      ∧ encoder.payloadType ≠ some payloadType := by
    by_cases hcan : encoder.payloadType = some .can
    · exact ⟨.canFd, rfl, by rw [hcan]; decide⟩
    · exact ⟨.can, rfl, hcan⟩
  refine ⟨payloadType, fun huntouched => hnew ?_⟩
  have hslot : (capture.performAll [.onStream key (.changePayloadType payloadType),
      .onStream key .commit]).resources.encoders.encoder? stream.id.toNat = some encoder := by
    rw [hrecycled, huntouched.slots other hother]
    exact hencoder
  have hkey : key < capture.streams.length := (List.getElem?_eq_some_iff.mp hstream).1
  rw [← hrecycled] at hencoder
  have hretyped := CaptureStream.retyped_slot h.wellKept.inStep.serves.size hencoder hdata
  refine hretyped encoder (Option.mem_def.mpr (Eq.trans ?_ hslot))
  show _ = ((capture.performStream key (.changePayloadType payloadType)).1.performStream key
    .commit).1.resources.encoders.encoder? _
  rw [performStream_eq hstream, performStream_eq (List.getElem?_set_self hkey)]
  rfl

/-- Two streams, the first of which was removed: both have identifier 1. -/
def recycledBench : CaptureModule LoopbackQueue :=
  bench.performAll [.addInterface .can none, .onInterface 0 (.addStream .can none),
    .onInterface 0 (.removeStream 1), .onInterface 0 (.addStream .can none)]

theorem reachable_recycledBench : Reachable recycledBench :=
  .perform (.perform (.perform (.perform (.create create_bench) trivial) (by decide +kernel)) (by decide +kernel))
    (by decide +kernel)

/-- The removed stream changes the payload type of the slot that now belongs to the other one. -/
theorem touched_recycledBench :
    Reachable recycledBench ∧ ¬ recycledBench.Live 0 ∧ recycledBench.Live 1
      ∧ ¬ Untouched recycledBench (recycledBench.performAll [.onStream 0 (.changePayloadType .canFd)]) := by
  refine ⟨reachable_recycledBench, by decide +kernel, by decide +kernel, fun huntouched => ?_⟩
  have hids : recycledBench.liveStreams.map CaptureStream.id = [1] := by decide +kernel
  obtain ⟨stream, hmem, hid⟩ : ∃ stream ∈ recycledBench.liveStreams, stream.id = 1 :=
    List.mem_map.mp (hids ▸ List.mem_singleton_self 1)
  have hslot : (recycledBench.performAll
      [.onStream 0 (.changePayloadType .canFd)]).resources.encoders.encoder? 1
        ≠ recycledBench.resources.encoders.encoder? 1 := by decide +kernel
  have hkept := huntouched.slots stream hmem
  rw [hid] at hkept
  exact hslot hkept

end CaptureModule

end CaptureProtocol
