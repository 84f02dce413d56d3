import CaptureProtocol.Proofs.CaptureOperations
import CaptureProtocol.Proofs.InterfaceChanges
import Mathlib

/-!
# The invariant of a capture module

* `CaptureModule.WellKept` — every list of handles is in order, and the shared parts are in step with what the listed
  interfaces and the live streams hold; `WellKept.created` says that a new module is;
* `WellKept.of_sameBooks`, `setStream`, `setInterface` — it is kept by sending, by an operation of a live stream and by
  one of a listed interface.
-/

namespace CaptureProtocol

/-! ### The invariant of a module -/

/-- The shared parts of a new module: no identifier is in use, and only slot 0 is bound. -/
theorem LinkResources.inStep_create {T : Type} (config : LinkConfig) (deviceId : UInt16) (sender : T) :
    (LinkResources.create config deviceId sender).InStep fun _ => none := by
  have hsize : EncoderRack.size (.empty EncoderRack.streamCount) = EncoderRack.streamCount := List.length_replicate
  have hslot : statusSlot < EncoderRack.size (.empty EncoderRack.streamCount) := by
    rw [hsize]
    decide
  refine ⟨?_, rfl, rfl, ?_⟩
  · show (IdPool.upTo 255 .reserved).Tracks fun _ => none
    exact IdPool.tracks_upTo _ _
  · exact {
      size := (EncoderRack.size_put _).trans hsize
      bound := fun {_ _} hheld => by cases hheld
      unbound := fun {slot} hne _ => by
        show EncoderRack.binding (EncoderRack.put _ _ _) slot = none
        rw [EncoderRack.binding_put_of_ne hslot _ hne, EncoderRack.binding, EncoderRack.encoder?, EncoderRack.empty,
          List.getElem?_replicate]
        split <;> rfl
      status := by
        show EncoderRack.binding (EncoderRack.put _ _ _) statusSlot = _
        rw [EncoderRack.binding_put_self hslot]
        rfl }

namespace CaptureModule

variable {T : Type} {capture after : CaptureModule T} {handle key : Nat}

/-- Every list of handles is in order, and the shared parts are in step with what the interfaces and the live streams
hold. -/
structure WellKept (capture : CaptureModule T) : Prop where
  listed_nodup : capture.listed.Nodup
  listed_created : ∀ {handle}, handle ∈ capture.listed → handle < capture.interfaces.length
  streams_nodup : ∀ handle, (capture.streamsAt handle).Nodup
  owner : ∀ {handle key}, key ∈ capture.streamsAt handle →
    ∃ stream, capture.streams[key]? = some stream ∧ stream.owner = handle
  interfaceIds : capture.resources.interfaceIds.Tracks capture.interfaceHeld
  inStep : capture.resources.InStep capture.held
  usable : capture.resources.limits.Usable
  settled : ∀ stream ∈ capture.streams, stream.inlet.Settled
  device : capture.resources.deviceId = capture.device.deviceId

theorem WellKept.created {config : LinkConfig} {device : ModuleIdentity} {sender : T}
    (h : create config device sender = .ok capture) : capture.WellKept := by
  rw [create] at h
  cases hvalidate : config.validate with
  | error error =>
    rw [hvalidate] at h
    cases h
  | ok accepted =>
    rw [hvalidate] at h
    cases h
    have hnobody : held { config, resources := .create config device.deviceId sender, device } = fun _ => none := by
      funext key
      rw [held]
      split <;> rfl
    refine ⟨List.nodup_nil, fun hmem => (List.not_mem_nil hmem).elim, fun handle => List.nodup_nil,
      fun hmem => (List.not_mem_nil hmem).elim, IdPool.tracks_upTo _ _, ?_, LinkConfig.usable_of_validate hvalidate,
      fun stream hmem => (List.not_mem_nil hmem).elim, rfl⟩
    rw [hnobody]
    exact LinkResources.inStep_create config device.deviceId sender

/-- A live stream exists and holds its label. -/
theorem WellKept.live (h : capture.WellKept) (hlive : capture.Live key) :
    ∃ stream, capture.streams[key]? = some stream ∧ capture.held key = some stream.label := by
  obtain ⟨handle, -, hmem⟩ := id hlive
  obtain ⟨stream, hstream, -⟩ := h.owner hmem
  exact ⟨stream, hstream, held_eq_some.mpr ⟨hlive, stream, hstream, rfl⟩⟩

/-- The interface of a handle holds its identifier. -/
theorem WellKept.listed (h : capture.WellKept) (hlisted : handle ∈ capture.listed) :
    ∃ interface, capture.interfaces[handle]? = some interface ∧ capture.interfaceHeld handle = some interface.id := by
  have hfound : capture.interfaces[handle]? = some _ := List.getElem?_eq_getElem (h.listed_created hlisted)
  exact ⟨_, hfound, interfaceHeld_eq_some.mpr ⟨hlisted, _, hfound, rfl⟩⟩

/-! ### Operations of streams -/

/-- Frames were numbered and sent. -/
theorem WellKept.of_sameBooks (h : capture.WellKept) {resources : LinkResources T}
    (hbooks : capture.resources.SameBooks resources) : WellKept { capture with resources } where
  listed_nodup := h.listed_nodup
  listed_created := h.listed_created
  streams_nodup := h.streams_nodup
  owner := h.owner
  interfaceIds := by
    show resources.interfaceIds.Tracks capture.interfaceHeld
    rw [hbooks.interfaceIds]
    exact h.interfaceIds
  inStep := hbooks.inStep h.inStep
  usable := by
    show resources.limits.Usable
    rw [hbooks.limits]
    exact h.usable
  settled := h.settled
  device := hbooks.deviceId.trans h.device

theorem held_set {stream : CaptureStream} (hlive : capture.Live key) (hkey : key < capture.streams.length)
    (resources : LinkResources T) :
    held { capture with resources, streams := capture.streams.set key stream }
      = Function.update capture.held key (some stream.label) := by
  funext other
  show (if capture.Live other then ((capture.streams.set key stream)[other]?).map CaptureStream.label else none) = _
  by_cases hsame : other = key
  · subst hsame
    rw [if_pos hlive, List.getElem?_set_self hkey, Function.update_self, Option.map_some]
  · rw [List.getElem?_set_ne (Ne.symm hsame), Function.update_of_ne hsame, held]

/-- An operation of a live stream. -/
theorem WellKept.setStream (h : capture.WellKept) (hlive : capture.Live key) {stream next : CaptureStream}
    (hstream : capture.streams[key]? = some stream) {resources : LinkResources T}
    (hfollows : CaptureStream.Follows capture.held key capture.resources stream resources next) :
    WellKept { capture with resources, streams := capture.streams.set key next } := by
  obtain ⟨hkey, hget⟩ := List.getElem?_eq_some_iff.mp hstream
  refine ⟨h.listed_nodup, h.listed_created, h.streams_nodup, ?_, ?_, ?_, ?_, ?_, ?_⟩
  · intro handle other hmem
    obtain ⟨found, hfound, howner⟩ := h.owner hmem
    by_cases hsame : other = key
    · subst hsame
      rw [hstream, Option.some.injEq] at hfound
      subst hfound
      exact ⟨next, List.getElem?_set_self hkey, hfollows.owner.trans howner⟩
    · exact ⟨found, (List.getElem?_set_ne (Ne.symm hsame)).trans hfound, howner⟩
  · show resources.interfaceIds.Tracks capture.interfaceHeld
    rw [hfollows.interfaceIds]
    exact h.interfaceIds
  · rw [held_set hlive hkey]
    exact hfollows.inStep
  · show resources.limits.Usable
    rw [hfollows.limits]
    exact h.usable
  · intro other hother
    rcases List.mem_or_eq_of_mem_set hother with hold | rfl
    · exact h.settled other hold
    · exact hfollows.settled (h.settled stream (List.mem_of_getElem? hstream))
  · exact hfollows.deviceId.trans h.device

/-! ### Operations of interfaces -/

theorem streamsAt_of_getElem? {interface : BusInterface} (h : capture.interfaces[handle]? = some interface) :
    capture.streamsAt handle = interface.streams := by
  rw [streamsAt, h]
  rfl

theorem streamsAt_set (next : BusInterface) (hcreated : handle < capture.interfaces.length)
    (hinterfaces : after.interfaces = capture.interfaces.set handle next) :
    after.streamsAt = Function.update capture.streamsAt handle next.streams := by
  funext other
  rw [streamsAt, hinterfaces]
  by_cases hsame : other = handle
  · subst hsame
    rw [List.getElem?_set_self hcreated, Function.update_self]
    rfl
  · rw [List.getElem?_set_ne (Ne.symm hsame), Function.update_of_ne hsame, streamsAt]

theorem interfaceHeld_set (next : BusInterface) (hcreated : handle < capture.interfaces.length)
    (hlisted : handle ∈ capture.listed) (hinterfaces : after.interfaces = capture.interfaces.set handle next)
    (hsame : after.listed = capture.listed) :
    after.interfaceHeld = Function.update capture.interfaceHeld handle (some next.id) := by
  funext other
  rw [interfaceHeld, hinterfaces, hsame]
  by_cases heq : other = handle
  · subst heq
    rw [if_pos hlisted, List.getElem?_set_self hcreated, Function.update_self, Option.map_some]
  · rw [List.getElem?_set_ne (Ne.symm heq), Function.update_of_ne heq, interfaceHeld]

theorem held_congr (hlive : ∀ key, after.Live key ↔ capture.Live key) (hstreams : after.streams = capture.streams) :
    after.held = capture.held := by
  funext key
  rw [held, held, hstreams]
  exact if_congr (hlive key) rfl rfl

/-- An operation of an interface of the module that keeps its streams. -/
theorem WellKept.setInterface (h : capture.WellKept) (hlisted : handle ∈ capture.listed) {interface next : BusInterface}
    (hfound : capture.interfaces[handle]? = some interface) {resources : LinkResources T}
    (hfollows : BusInterface.Follows capture.interfaceHeld handle capture.resources interface resources next) :
    WellKept { capture with resources, interfaces := capture.interfaces.set handle next } := by
  have hcreated := h.listed_created hlisted
  obtain ⟨after, hafter⟩ : ∃ after, after
    = { capture with resources, interfaces := capture.interfaces.set handle next } := ⟨_, rfl⟩
  have hinterfaces : after.interfaces = capture.interfaces.set handle next := by rw [hafter]
  have hsame : after.listed = capture.listed := by rw [hafter]
  have hstreams : after.streams = capture.streams := by rw [hafter]
  have hresources : after.resources = resources := by rw [hafter]
  have hstreamsAt : after.streamsAt = capture.streamsAt := by
    rw [streamsAt_set next hcreated hinterfaces, hfollows.streams, ← streamsAt_of_getElem? hfound,
      Function.update_eq_self]
  rw [← hafter]
  refine ⟨by rw [hsame]; exact h.listed_nodup, fun {_} hmem => ?_, fun other => ?_, fun {_ _} hmem => ?_, ?_, ?_, ?_,
    by rw [hstreams]; exact h.settled, ?_⟩
  · rw [hinterfaces, List.length_set]
    rw [hsame] at hmem
    exact h.listed_created hmem
  · rw [hstreamsAt]
    exact h.streams_nodup other
  · rw [hstreamsAt] at hmem
    rw [hstreams]
    exact h.owner hmem
  · rw [interfaceHeld_set next hcreated hlisted hinterfaces hsame, hresources]
    exact hfollows.tracks
  · have hlive : ∀ key, after.Live key ↔ capture.Live key := fun key => by rw [Live, Live, hsame, hstreamsAt]
    rw [held_congr hlive hstreams, hresources, hfollows.rest]
    exact ⟨h.inStep.tracks, h.inStep.least, h.inStep.greatest, h.inStep.serves⟩
  · rw [hresources, hfollows.rest]
    exact h.usable
  · rw [hresources, hfollows.rest, hafter]
    exact h.device

end CaptureModule

end CaptureProtocol
