import CaptureProtocol.Proofs.CaptureBooks
import Mathlib

/-!
# What an outsider cannot touch

Some keys hold stream identifiers and interface identifiers.  An outsider is a stream or an interface whose own
identifier is held by none of them.

* `IdPool.Shields`, `LinkResources.Shields` — the keys hold what they hold, whatever else is in use;
* `LinkResources.Spares` — between two moments the slots of the keys keep their encoders, with the numbers of their
  frames, and only frames of other streams were sent;
* `StreamOperation.run_spares`, `BusInterface.commit_spares` — the operations of outsiders spare what is held, and
  leave them outsiders.
-/

namespace CaptureProtocol

/-! ### Identifiers -/

namespace IdPool

variable {pool : IdPool} {held holder : Nat → Option UInt32} {key : Nat} {id : UInt32}

/-- The keys hold their identifiers, whatever else is in use. -/
def Shields (pool : IdPool) (held : Nat → Option UInt32) : Prop :=
  ∃ holder, pool.Tracks holder ∧ ∀ {key id}, held key = some id → holder key = some id

theorem Tracks.shields (h : pool.Tracks holder) : pool.Shields holder := ⟨holder, h, fun hheld => hheld⟩

theorem Shields.mem (h : pool.Shields held) (hkey : held key = some id) : id ∈ pool.used ∧ id ∉ pool.recycled := by
  obtain ⟨holder, htracks, hwider⟩ := h
  have hused : id ∈ pool.used := htracks.held.mpr ⟨key, hwider hkey⟩
  exact ⟨hused, fun hrecycled => (htracks.recycled hrecycled).2 hused⟩

/-- There are more keys than identifiers. -/
theorem Tracks.exists_key (h : pool.Tracks holder) : ∃ key, holder key = none := by
  by_contra hall
  have hsome : ∀ key, ∃ id, holder key = some id := fun key =>
    Option.ne_none_iff_exists'.mp fun hnone => hall ⟨key, hnone⟩
  choose id hid using hsome
  have hinjective : Function.Injective fun key => (id key).toFin := fun first second hsame =>
    h.unique (hid first) (UInt32.toFin_inj.mp hsame ▸ hid second)
  exact not_injective_infinite_finite _ hinjective

theorem Shields.occupy (h : pool.Shields held) (hcovers : pool.covers id = true) (hfree : id ∉ pool.used) :
    (pool.occupy id).Shields held := by
  obtain ⟨holder, htracks, hwider⟩ := h
  obtain ⟨key, hkey⟩ := htracks.exists_key
  refine ⟨_, htracks.occupy hkey hcovers hfree, fun {other known} hother => ?_⟩
  rw [Function.update_of_ne]
  · exact hwider hother
  · rintro rfl
    rw [hwider hother] at hkey
    cases hkey

/-- Only an identifier that no key holds is given back. -/
theorem Shields.remove (h : pool.Shields held) (hforeign : ∀ key, held key ≠ some id) :
    (pool.remove id).1.Shields held := by
  by_cases hused : id ∈ pool.used
  · obtain ⟨holder, htracks, hwider⟩ := h
    obtain ⟨key, hkey⟩ := htracks.held.mp hused
    refine ⟨_, htracks.remove hkey, fun {other known} hother => ?_⟩
    rw [Function.update_of_ne]
    · exact hwider hother
    · rintro rfl
      rw [hwider hother] at hkey
      exact hforeign other (hother.trans hkey)
  · rwa [remove_of_notMem hused]

theorem remove_greatest (pool : IdPool) (id : UInt32) : (pool.remove id).1.greatest = pool.greatest := by
  rw [remove]
  split <;> rfl

end IdPool

/-! ### Slots -/

/-- A slot that is bound is bound to the stream of its number. -/
def EncoderRack.Numbered (rack : EncoderRack) : Prop :=
  ∀ slot encoder, rack.encoder? slot = some encoder → encoder.streamId.toNat = slot

theorem EncoderRack.Numbered.put {rack : EncoderRack} (h : rack.Numbered) {id : UInt8} {encoder : Option Encoder}
    (hsize : id.toNat < rack.size) (hencoder : ∀ bound ∈ encoder, bound.streamId = id) :
    (rack.put id.toNat encoder).Numbered := by
  intro slot bound hbound
  rw [encoder?_put hsize] at hbound
  split at hbound
  · rename_i hslot
    rw [hencoder bound hbound, hslot]
  · exact h slot bound hbound

theorem EncoderRack.Serves.numbered {rack : EncoderRack} {deviceId : UInt16} {held : Nat → Option StreamLabel}
    (h : rack.Serves deviceId held) : rack.Numbered := by
  intro slot encoder hencoder
  have hbinding : rack.binding slot = some encoder.binding := by rw [binding, hencoder, Option.map_some]
  by_cases hstatus : slot = statusSlot
  · rw [hstatus, h.status, Option.some.injEq] at hbinding
    have hstream : (statusBinding deviceId).streamId = encoder.binding.streamId := congrArg Encoder.streamId hbinding
    exact (congrArg UInt8.toNat hstream.symm).trans hstatus.symm
  · by_contra hother
    rw [h.unbound hstatus] at hbinding
    · cases hbinding
    · rintro key label hkey rfl
      rw [h.bound hkey, Option.some.injEq] at hbinding
      have hstream : (label.binding deviceId).streamId = encoder.binding.streamId := congrArg Encoder.streamId hbinding
      exact hother (congrArg UInt8.toNat hstream.symm)

/-! ### Frames -/

/-- A sender is handed a frame of some kind. -/
def Hands {T : Type} [FrameSender T] (good : Bytes → Prop) (before after : T) : Prop :=
  ∃ frame, good frame ∧ after = (FrameSender.send before frame).1

theorem sendAll_hands {T : Type} [FrameSender T] {good : Bytes → Prop} {frames : List Bytes}
    (h : ∀ frame ∈ frames, good frame) (sender : T) :
    Relation.ReflTransGen (Hands good) sender (sendAll sender frames).1 := by
  induction frames generalizing sender with
  | nil => exact .refl
  | cons frame frames ih =>
    obtain ⟨hframe, hrest⟩ := List.forall_mem_cons.mp h
    have hfirst : Hands good sender (FrameSender.send sender frame).1 := ⟨frame, hframe, rfl⟩
    rw [sendAll]
    generalize FrameSender.send sender frame = outcome at hfirst
    obtain ⟨next, error | _⟩ := outcome
    · exact .single hfirst
    · exact .head hfirst (ih hrest next)

/-- Whether the header of a frame names another stream than those that keys hold. -/
def NamesOther (held : Nat → Option StreamLabel) (frame : Bytes) : Prop :=
  ∃ header rest, FrameHeader.read frame = some (header, rest)
    ∧ ∀ {key label}, held key = some label → label.id ≠ header.streamId

/-- A frame names the stream of its encoder. -/
theorem Encoder.read_writeFrame_streamId (encoder : Encoder) (limits : FrameLimits) (index : Nat) (draft : FrameDraft) :
    ∃ header rest, FrameHeader.read (encoder.writeFrame limits index draft) = some (header, rest)
      ∧ header.streamId = encoder.streamId := by
  rw [writeFrame, List.append_assoc, FrameHeader.read_write]
  exact ⟨_, _, rfl, rfl⟩

/-! ### What an outsider leaves alone -/

namespace LinkResources

variable {T : Type} [FrameSender T] {before between after resources : LinkResources T}
  {held : Nat → Option StreamLabel} {interfaces : Nat → Option UInt32}

/-- The keys hold their identifiers, whatever else is in use and bound. -/
structure Shields (resources : LinkResources T) (held : Nat → Option StreamLabel) (interfaces : Nat → Option UInt32) :
    Prop where
  interfaceIds : resources.interfaceIds.Shields interfaces
  streamIds : resources.streamIds.Shields (Option.map StreamLabel.pooled ∘ held)
  greatest : resources.streamIds.greatest = 255
  size : resources.encoders.size = EncoderRack.streamCount
  numbered : resources.encoders.Numbered

omit [FrameSender T] in
theorem InStep.shields (h : resources.InStep held) (hinterfaces : resources.interfaceIds.Tracks interfaces) :
    resources.Shields held interfaces where
  interfaceIds := hinterfaces.shields
  streamIds := h.tracks.shields
  greatest := h.greatest
  size := h.serves.size
  numbered := h.serves.numbered

/-- The slots of the keys keep their encoders, and only frames of other streams were sent. -/
structure Spares (held : Nat → Option StreamLabel) (interfaces : Nat → Option UInt32) (before after : LinkResources T) :
    Prop where
  shields : after.Shields held interfaces
  slots : ∀ {key label}, held key = some label →
    after.encoders.encoder? label.id.toNat = before.encoders.encoder? label.id.toNat
  frames : Relation.ReflTransGen (Hands (NamesOther held)) before.sender after.sender

theorem Shields.spares (h : resources.Shields held interfaces) : Spares held interfaces resources resources :=
  ⟨h, fun _ => rfl, .refl⟩

theorem Spares.trans (hfirst : Spares held interfaces before between) (hsecond : Spares held interfaces between after) :
    Spares held interfaces before after where
  shields := hsecond.shields
  slots hkey := (hsecond.slots hkey).trans (hfirst.slots hkey)
  frames := hfirst.frames.trans hsecond.frames

/-- An identifier that no key holds. -/
def Foreign (held : Nat → Option StreamLabel) (id : UInt8) : Prop :=
  ∀ {key label}, held key = some label → label.id ≠ id

/-- The content of a slot that no key holds. -/
theorem Shields.put (h : resources.Shields held interfaces) {id : UInt8} (hforeign : Foreign held id)
    {encoder : Option Encoder} (hencoder : ∀ bound ∈ encoder, bound.streamId = id) :
    Spares held interfaces resources { resources with encoders := resources.encoders.put id.toNat encoder } := by
  have hsize : id.toNat < resources.encoders.size := by
    rw [h.size]
    exact id.toNat_lt
  refine ⟨⟨h.interfaceIds, h.streamIds, h.greatest, (EncoderRack.size_put _).trans h.size,
    h.numbered.put hsize hencoder⟩, fun {key label} hkey => ?_, .refl⟩
  show EncoderRack.encoder? (resources.encoders.put id.toNat encoder) label.id.toNat = _
  rw [EncoderRack.encoder?_put hsize, if_neg fun hsame => hforeign hkey (UInt8.toNat_inj.mp hsame)]

/-- An identifier that is free comes into use. -/
theorem Shields.occupy (h : resources.Shields held interfaces) {id : UInt32}
    (hcovers : resources.streamIds.covers id = true) (hfree : id ∉ resources.streamIds.used) :
    Spares held interfaces resources { resources with streamIds := resources.streamIds.occupy id } :=
  ⟨⟨h.interfaceIds, h.streamIds.occupy hcovers hfree, h.greatest, h.size, h.numbered⟩, fun _ => rfl, .refl⟩

/-- An identifier that no key holds is given back. -/
theorem Shields.remove (h : resources.Shields held interfaces) {id : UInt8} (hforeign : Foreign held id) :
    Spares held interfaces resources
      { resources with streamIds := (resources.streamIds.remove id.toUInt32).1 } := by
  refine ⟨⟨h.interfaceIds, h.streamIds.remove fun key hkey => ?_, (IdPool.remove_greatest ..).trans h.greatest, h.size,
    h.numbered⟩, fun _ => rfl, .refl⟩
  obtain ⟨label, hlabel, hpooled⟩ := Option.map_eq_some_iff.mp hkey
  exact hforeign hlabel (UInt8.toUInt32_inj.mp hpooled)

/-- A slot that no key holds is bound. -/
theorem Shields.bind (h : resources.Shields held interfaces) {id : UInt8} (hforeign : Foreign held id)
    (encoder : Encoder) (hencoder : encoder.streamId = id) :
    Spares held interfaces resources
      { resources with encoders := resources.encoders.put id.toNat (some encoder) } := by
  refine h.put hforeign fun bound hbound => ?_
  rw [← Option.mem_some_iff.mp hbound]
  exact hencoder

/-- A slot that no key holds is emptied. -/
theorem Shields.release (h : resources.Shields held interfaces) {id : UInt8} (hforeign : Foreign held id) :
    Spares held interfaces resources { resources with encoders := resources.encoders.release id.toNat } :=
  h.put hforeign fun _ hnone => (Option.not_mem_none _ hnone).elim

/-- The slot and the identifier of an outsider are given back. -/
theorem Shields.releaseStream (h : resources.Shields held interfaces) {id : UInt8} (hforeign : Foreign held id) :
    Spares held interfaces resources (resources.releaseStream id) :=
  (h.release hforeign).trans ((h.release hforeign).shields.remove hforeign)

/-- A free interface identifier takes the place of one that no key holds. -/
theorem Shields.exchangeInterfaceId (h : resources.Shields held interfaces) {old new : UInt32}
    (hforeign : ∀ handle, interfaces handle ≠ some old) (hcovers : resources.interfaceIds.covers new = true)
    (hfree : new ∉ resources.interfaceIds.used) :
    Spares held interfaces resources
      { resources with interfaceIds := ((resources.interfaceIds.occupy new).remove old).1 } :=
  ⟨⟨(h.interfaceIds.occupy hcovers hfree).remove hforeign, h.streamIds, h.greatest, h.size, h.numbered⟩, fun _ => rfl,
    .refl⟩

/-- Frames of other streams are sent. -/
theorem Shields.send (h : resources.Shields held interfaces) {frames : List Bytes}
    (hframes : ∀ frame ∈ frames, NamesOther held frame) :
    Spares held interfaces resources { resources with sender := (sendAll resources.sender frames).1 } :=
  ⟨⟨h.interfaceIds, h.streamIds, h.greatest, h.size, h.numbered⟩, fun _ => rfl, sendAll_hands hframes _⟩

omit [FrameSender T] in
/-- A free identifier is foreign to all keys. -/
theorem Shields.foreign_of_free (h : resources.Shields held interfaces) {id : UInt8}
    (hfree : id.toUInt32 ∉ resources.streamIds.used) : Foreign held id := by
  rintro key label hkey rfl
  have hpooled : (Option.map StreamLabel.pooled ∘ held) key = some label.id.toUInt32 := by
    rw [Function.comp_apply, hkey, Option.map_some, StreamLabel.pooled]
  exact hfree (h.streamIds.mem hpooled).1

end LinkResources

/-! ### Operations of outsiders -/

namespace CaptureStream

variable {T : Type} [FrameSender T] {resources after : LinkResources T} {stream next : CaptureStream}
  {held : Nat → Option StreamLabel} {interfaces : Nat → Option UInt32}

/-- What is held was spared, and the stream is an outsider afterwards. -/
structure Passes (held : Nat → Option StreamLabel) (interfaces : Nat → Option UInt32)
    (resources after : LinkResources T) (next : CaptureStream) : Prop where
  spares : LinkResources.Spares held interfaces resources after
  foreign : LinkResources.Foreign held next.id

theorem passes_of_id (h : resources.Shields held interfaces) (hforeign : LinkResources.Foreign held stream.id)
    (hid : next.id = stream.id) : Passes held interfaces resources resources next :=
  ⟨h.spares, fun {_ _} hkey => hid ▸ hforeign hkey⟩

theorem Passes.trans {between : LinkResources T} {changed : CaptureStream}
    (hfirst : Passes held interfaces resources between changed) (hsecond : Passes held interfaces between after next) :
    Passes held interfaces resources after next :=
  ⟨hfirst.spares.trans hsecond.spares, hsecond.foreign⟩

theorem moveToId_passes (h : resources.Shields held interfaces) (hforeign : LinkResources.Foreign held stream.id)
    (id : UInt8) :
    Passes held interfaces resources (moveToId resources stream id).1 (moveToId resources stream id).2.1 := by
  rcases moveToId_cases h.size stream id with ⟨applied, hmove⟩ | ⟨hcovers, hfree, hmove⟩
  · rw [hmove]
    exact passes_of_id h hforeign rfl
  · rw [hmove]
    have hnew : LinkResources.Foreign held id := h.foreign_of_free hfree
    have hpool := (h.occupy hcovers hfree).trans ((h.occupy hcovers hfree).shields.remove hforeign)
    have hbound := hpool.trans
      (hpool.shields.bind hnew (StreamLabel.binding resources.deviceId ⟨id, stream.payloadType⟩) rfl)
    have hreleased := hbound.trans (hbound.shields.release hforeign)
    exact ⟨hreleased, hnew⟩

theorem moveToPayloadType_passes (h : resources.Shields held interfaces)
    (hforeign : LinkResources.Foreign held stream.id) (payloadType : PayloadType) :
    Passes held interfaces resources (moveToPayloadType resources stream payloadType).1
      (moveToPayloadType resources stream payloadType).2.1 := by
  rcases moveToPayloadType_cases resources stream payloadType with hmove | ⟨encoder, -, hencoder, hmove⟩
  · rw [hmove]
    exact passes_of_id h hforeign rfl
  · rw [hmove]
    have hstream : encoder.streamId = stream.id := UInt8.toNat_inj.mp (h.numbered _ _ hencoder)
    exact ⟨h.bind hforeign _ hstream, hforeign⟩

/-- A batch with packets: they are encoded in the slot of the stream. -/
theorem send_packets_passes (h : resources.Shields held interfaces)
    (hforeign : LinkResources.Foreign held stream.id) {interfaceId : UInt32} {batch : SignalBatch}
    {packets : List Packet} (hpackets : stream.inlet.packets? interfaceId batch = some packets)
    (hsome : packets ≠ []) :
    Passes held interfaces resources (stream.send resources interfaceId batch).1
      (stream.send resources interfaceId batch).2.1 := by
  cases hbound : resources.encoders.bound stream.id.toNat with
  | error error =>
    have hencode : resources.encoders.encode stream.id.toNat resources.limits packets
        = (resources.encoders, .error error) := by
      rw [EncoderRack.encode, hbound]
    rw [send_of_encode_error hpackets hsome hencode]
    exact passes_of_id h hforeign rfl
  | ok encoder =>
    have hencoder := EncoderRack.bound_eq_ok.mp hbound
    have hstream : encoder.streamId = stream.id := UInt8.toNat_inj.mp (h.numbered _ _ hencoder)
    have hencode := EncoderRack.encode_of_encoder? hencoder resources.limits packets
    have hencoded : LinkResources.Spares held interfaces resources { resources with
        encoders := resources.encoders.put stream.id.toNat
          (some (encoder.encode resources.limits packets).1) } := by
      refine h.bind hforeign _ ?_
      rw [Encoder.encode_fst]
      exact hstream
    cases hresult : (encoder.encode resources.limits packets).2 with
    | error error =>
      rw [hresult] at hencode
      rw [send_of_encode_error hpackets hsome hencode]
      exact ⟨hencoded, hforeign⟩
    | ok frames =>
      rw [hresult] at hencode
      obtain ⟨-, -, rfl, -⟩ := Encoder.encode_ok hresult
      have hframes : ∀ frame ∈ encoder.writeFrames resources.limits (layout resources.limits packets),
          NamesOther held frame := by
        intro frame hframe
        obtain ⟨index, hindex, rfl⟩ := List.mem_mapIdx.mp hframe
        obtain ⟨header, rest, hread, hnamed⟩ := encoder.read_writeFrame_streamId resources.limits index _
        refine ⟨header, rest, hread, fun {key label} hkey => ?_⟩
        rw [hnamed, hstream]
        exact hforeign hkey
      have hsent := hencoded.trans (hencoded.shields.send hframes)
      rw [send_of_encode_ok hpackets hsome hencode]
      refine ⟨hsent, ?_⟩
      rw [afterSending_id]
      exact hforeign

theorem send_passes (h : resources.Shields held interfaces) (hforeign : LinkResources.Foreign held stream.id)
    (interfaceId : UInt32) (batch : SignalBatch) :
    Passes held interfaces resources (stream.send resources interfaceId batch).1
      (stream.send resources interfaceId batch).2.1 := by
  cases hpackets : stream.inlet.packets? interfaceId batch with
  | none =>
    rw [send_of_overflow hpackets]
    exact passes_of_id h hforeign rfl
  | some packets =>
    by_cases hnone : packets = []
    · subst hnone
      rw [send_of_nil hpackets]
      exact passes_of_id h hforeign rfl
    · exact send_packets_passes h hforeign hpackets hnone

theorem changeId_passes (h : resources.Shields held interfaces) (hforeign : LinkResources.Foreign held stream.id)
    (id : UInt8) :
    Passes held interfaces resources (changeId resources stream id).1 (changeId resources stream id).2.1 := by
  rw [changeId]
  split
  · exact passes_of_id h hforeign rfl
  · exact moveToId_passes h hforeign id

theorem changePayloadType_passes (h : resources.Shields held interfaces)
    (hforeign : LinkResources.Foreign held stream.id) (payloadType : PayloadType) :
    Passes held interfaces resources (changePayloadType resources stream payloadType).1
      (changePayloadType resources stream payloadType).2.1 := by
  rw [changePayloadType]
  split
  · exact passes_of_id h hforeign rfl
  · exact moveToPayloadType_passes h hforeign payloadType

theorem applyStaged_passes {α : Type}
    {apply : LinkResources T → CaptureStream → α → LinkResources T × CaptureStream × Bool}
    (h : resources.Shields held interfaces) (hforeign : LinkResources.Foreign held stream.id) (value : Option α)
    (happly : ∀ value, Passes held interfaces resources (apply resources stream value).1
      (apply resources stream value).2.1) :
    Passes held interfaces resources (applyStaged apply resources stream value).1
      (applyStaged apply resources stream value).2.1 := by
  cases value with
  | none => exact passes_of_id h hforeign rfl
  | some value => exact happly value

theorem commit_passes (h : resources.Shields held interfaces) (hforeign : LinkResources.Foreign held stream.id) :
    Passes held interfaces resources (commit resources stream).1 (commit resources stream).2.1 := by
  rw [commit]
  split
  · exact passes_of_id h hforeign rfl
  · rename_i update _
    have hcleared : LinkResources.Foreign held (CaptureStream.id { stream with staged := none }) := hforeign
    have htyped := applyStaged_passes h hcleared update.payloadType
      fun payloadType => moveToPayloadType_passes h hcleared payloadType
    have hmoved := applyStaged_passes htyped.spares.shields htyped.foreign update.id
      fun id => moveToId_passes htyped.spares.shields htyped.foreign id
    exact htyped.trans hmoved

end CaptureStream

/-- Every operation of a stream that is an outsider spares what is held. -/
theorem StreamOperation.run_passes {T : Type} [FrameSender T] {resources : LinkResources T} {stream : CaptureStream}
    {held : Nat → Option StreamLabel} {interfaces : Nat → Option UInt32} (h : resources.Shields held interfaces)
    (hforeign : LinkResources.Foreign held stream.id) (interfaceId : UInt32) (operation : StreamOperation) :
    CaptureStream.Passes held interfaces resources (operation.run interfaceId resources stream).1
      (operation.run interfaceId resources stream).2 := by
  cases operation with
  | connect | disconnect | stage => exact CaptureStream.passes_of_id h hforeign rfl
  | send batch => exact CaptureStream.send_passes h hforeign interfaceId batch
  | changeId id => exact CaptureStream.changeId_passes h hforeign id
  | changePayloadType payloadType => exact CaptureStream.changePayloadType_passes h hforeign payloadType
  | commit => exact CaptureStream.commit_passes h hforeign

namespace BusInterface

variable {T : Type} [FrameSender T] {resources after : LinkResources T} {interface next : BusInterface}
  {held : Nat → Option StreamLabel} {interfaces : Nat → Option UInt32}

/-- What is held was spared, and the interface is an outsider afterwards, with the streams that it had. -/
structure Passes (held : Nat → Option StreamLabel) (interfaces : Nat → Option UInt32) (resources : LinkResources T)
    (interface : BusInterface) (after : LinkResources T) (next : BusInterface) : Prop where
  spares : LinkResources.Spares held interfaces resources after
  foreign : ∀ handle, interfaces handle ≠ some next.id
  streams : next.streams = interface.streams

theorem passes_of_id (h : resources.Shields held interfaces)
    (hforeign : ∀ handle, interfaces handle ≠ some interface.id) (hid : next.id = interface.id)
    (hstreams : next.streams = interface.streams) :
    Passes held interfaces resources interface resources next :=
  ⟨h.spares, fun handle => hid ▸ hforeign handle, hstreams⟩

theorem moveToId_passes (h : resources.Shields held interfaces)
    (hforeign : ∀ handle, interfaces handle ≠ some interface.id) (id : UInt32) :
    Passes held interfaces resources interface (moveToId resources interface id).1
      (moveToId resources interface id).2.1 := by
  rw [moveToId]
  cases hreplace : resources.interfaceIds.replace interface.id id with
  | error error => exact passes_of_id h hforeign rfl rfl
  | ok pool =>
    rcases IdPool.replace_eq_ok hreplace with ⟨rfl, rfl⟩ | ⟨-, hcovers, hfree, rfl⟩
    · exact passes_of_id h hforeign rfl rfl
    · refine ⟨h.exchangeInterfaceId hforeign hcovers hfree, fun handle hheld => ?_, rfl⟩
      exact hfree (h.interfaceIds.mem hheld).1

theorem changeId_passes (h : resources.Shields held interfaces)
    (hforeign : ∀ handle, interfaces handle ≠ some interface.id) (id : UInt32) :
    Passes held interfaces resources interface (changeId resources interface id).1
      (changeId resources interface id).2.1 := by
  rw [changeId]
  split
  · exact passes_of_id h hforeign rfl rfl
  · exact moveToId_passes h hforeign id

theorem commit_passes (h : resources.Shields held interfaces)
    (hforeign : ∀ handle, interfaces handle ≠ some interface.id) :
    Passes held interfaces resources interface (commit resources interface).1 (commit resources interface).2.1 := by
  rw [commit]
  split
  · exact passes_of_id h hforeign rfl rfl
  · rename_i update _
    -- the kind is applied first; it touches neither the identifier nor the streams
    have happlied : ∀ between : BusInterface, between.id = interface.id → between.streams = interface.streams →
        ∀ id, Passes held interfaces resources interface (moveToId resources between id).1
          (moveToId resources between id).2.1 := by
      intro between hbetween hstreams id
      have hmoved := moveToId_passes h (fun handle => hbetween ▸ hforeign handle) id
      exact ⟨hmoved.spares, hmoved.foreign, hmoved.streams.trans hstreams⟩
    cases update.kind with
    | none =>
      cases update.id with
      | none => exact passes_of_id h hforeign rfl rfl
      | some id => exact happlied { interface with staged := none } rfl rfl id
    | some kind =>
      obtain ⟨hsame, hstreams⟩ := moveToKind_id { interface with staged := none } kind
      cases update.id with
      | none => exact passes_of_id h hforeign hsame hstreams
      | some id => exact happlied _ hsame hstreams id

end BusInterface

end CaptureProtocol
