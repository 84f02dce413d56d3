import CaptureProtocol.Capture.Stream
import CaptureProtocol.Proofs.Bookkeeping
import CaptureProtocol.Proofs.Inlets
import Mathlib

/-!
# What an operation of a stream does to the shared parts

* `CaptureStream.moveToId_cases`, `moveToPayloadType_cases`, `send_cases` — everything that the three operations on
  shared parts can do; `send_of_overflow`, `send_of_nil`, `send_of_encode_error`, `send_of_encode_ok`: the paths of a
  send;
* `LinkResources.SameBooks` — the same identifiers are in use and the same slots are bound;
* `CaptureStream.Follows` — an operation leaves the shared parts in step with the new label of the stream; the lemmas
  `changeId_follows`, `changePayloadType_follows`, `commit_follows` and `send_follows` show it of every operation;
* `changeId_refused`, `changePayloadType_refused`, `send_refused` — what is refused changes nothing.
-/

namespace CaptureProtocol

/-! ### The shared parts -/

namespace LinkResources

variable {T : Type}

/-- The same identifiers are in use and the same slots are bound; frames may have been numbered and sent. -/
structure SameBooks (before after : LinkResources T) : Prop where
  deviceId : after.deviceId = before.deviceId
  limits : after.limits = before.limits
  interfaceIds : after.interfaceIds = before.interfaceIds
  streamIds : after.streamIds = before.streamIds
  size : after.encoders.size = before.encoders.size
  binding : after.encoders.binding = before.encoders.binding

theorem SameBooks.refl (resources : LinkResources T) : SameBooks resources resources :=
  ⟨rfl, rfl, rfl, rfl, rfl, rfl⟩

theorem SameBooks.inStep {before after : LinkResources T} (hbooks : SameBooks before after)
    {held : Nat → Option StreamLabel} (h : before.InStep held) : after.InStep held :=
  h.of_binding hbooks.deviceId hbooks.streamIds hbooks.size hbooks.binding

/-- Encoding numbers frames and sending hands them on; the books stay as they are. -/
theorem sameBooks_encode (resources : LinkResources T) (slot : Nat) (packets : List Packet) (sender : T) :
    SameBooks resources { resources with
      encoders := (resources.encoders.encode slot resources.limits packets).1
      sender } :=
  ⟨rfl, rfl, rfl, rfl, EncoderRack.encode_size .., EncoderRack.encode_binding ..⟩

theorem bindSlot_ok {resources : LinkResources T} (hsize : resources.encoders.size = EncoderRack.streamCount)
    (id : UInt8) (payloadType : PayloadType) :
    resources.bindSlot id payloadType
      = .ok { resources with
          encoders := resources.encoders.put id.toNat
            (some (StreamLabel.binding resources.deviceId ⟨id, payloadType⟩)) } := by
  have hslot : id.toNat < resources.encoders.size := by
    rw [hsize]
    exact id.toNat_lt
  rw [bindSlot, EncoderRack.assign, if_pos hslot]
  rfl

end LinkResources

/-! ### Encoding what a slot is bound to -/

namespace Encoder

theorem accepts_of_sendable {encoder : Encoder} {packet : Packet} (hsendable : packet.Sendable)
    (htype : encoder.payloadType = some packet.payloadType) : encoder.accepts packet = true := by
  rw [accepts, refusal?, htype, Option.isNone_iff_eq_none]
  dsimp only
  rw [if_neg (not_not_intro rfl), if_pos hsendable.valid]

theorem encode_of_accepts {encoder : Encoder} {limits : FrameLimits} {packets : List Packet} (husable : limits.Usable)
    (haccepts : ∀ packet ∈ packets, encoder.accepts packet = true) :
    (encoder.encode limits packets).2 = .ok (encoder.writeFrames limits (layout limits packets)) := by
  have hnone : packets.dropWhile encoder.accepts = [] := List.dropWhile_eq_nil_iff.mpr haccepts
  have hall : packets.takeWhile encoder.accepts = packets := List.takeWhile_eq_self_iff.mpr haccepts
  rw [encode_of_usable packets husable, hnone, hall]
  rfl

end Encoder

theorem EncoderRack.encode_of_encoder? {rack : EncoderRack} {slot : Nat} {encoder : Encoder}
    (h : rack.encoder? slot = some encoder) (limits : FrameLimits) (packets : List Packet) :
    rack.encode slot limits packets
      = (rack.put slot (some (encoder.encode limits packets).1), (encoder.encode limits packets).2) := by
  rw [encode, bound_eq_ok.mpr h]

/-! ### What the operations can do -/

namespace CaptureStream

variable {T : Type} {resources after : LinkResources T} {stream next : CaptureStream}

/-- What a stream goes by. -/
def label (stream : CaptureStream) : StreamLabel := ⟨stream.id, stream.payloadType⟩

/-- A new identifier leaves everything as it is, or it was free and the stream moves to its slot. -/
theorem moveToId_cases (hsize : resources.encoders.size = EncoderRack.streamCount) (stream : CaptureStream)
    (id : UInt8) :
    (∃ applied, moveToId resources stream id = (resources, stream, applied))
      ∨ (resources.streamIds.covers id.toUInt32 = true ∧ id.toUInt32 ∉ resources.streamIds.used
        ∧ moveToId resources stream id
          = ({ resources with
                streamIds := ((resources.streamIds.occupy id.toUInt32).remove stream.id.toUInt32).1
                encoders := (resources.encoders.put id.toNat
                  (some (StreamLabel.binding resources.deviceId ⟨id, stream.payloadType⟩))).release stream.id.toNat },
              { stream with id }, true)) := by
  rw [moveToId]
  by_cases hsame : stream.id = id
  · rw [if_pos hsame]
    exact .inl ⟨true, rfl⟩
  · rw [if_neg hsame]
    cases hreplace : resources.streamIds.replace stream.id.toUInt32 id.toUInt32 with
    | error error => exact .inl ⟨false, rfl⟩
    | ok streamIds =>
      rcases IdPool.replace_eq_ok hreplace with ⟨hids, -⟩ | ⟨-, hcovers, hfree, rfl⟩
      · exact (hsame (UInt8.toUInt32_inj.mp hids)).elim
      · refine .inr ⟨hcovers, hfree, ?_⟩
        dsimp only
        rw [LinkResources.bindSlot_ok]
        exact hsize

/-- A new payload type leaves everything as it is, or the stream's slot was bound and goes on under the new type. -/
theorem moveToPayloadType_cases (resources : LinkResources T) (stream : CaptureStream) (payloadType : PayloadType) :
    moveToPayloadType resources stream payloadType = (resources, stream, false)
      ∨ ∃ encoder, payloadType.isData = true ∧ resources.encoders.encoder? stream.id.toNat = some encoder
        ∧ moveToPayloadType resources stream payloadType
          = ({ resources with
                encoders := resources.encoders.put stream.id.toNat
                  (some { encoder with payloadType := some payloadType }) },
              { stream with inlet := stream.inlet.retype payloadType }, true) := by
  rw [moveToPayloadType]
  split
  · rename_i hdata
    rw [EncoderRack.retype]
    cases hbound : resources.encoders.bound stream.id.toNat with
    | error error => exact .inl rfl
    | ok encoder => exact .inr ⟨encoder, hdata, EncoderRack.bound_eq_ok.mp hbound, rfl⟩
  · exact .inl rfl

/-! ### The paths of a send -/

section

variable [FrameSender T] {interfaceId : UInt32} {batch : SignalBatch} {packets : List Packet} {encoders : EncoderRack}

/-- The stream after its frames were handed over. -/
def afterSending (stream : CaptureStream) (packets frames : Nat) : Except LinkError Unit → CaptureStream
  | .ok () => { stream with packetsSent := stream.packetsSent + packets, framesSent := stream.framesSent + frames }
  | .error _ => stream

omit [FrameSender T] in
@[simp] theorem afterSending_id (packets frames : Nat) (answer : Except LinkError Unit) :
    (stream.afterSending packets frames answer).id = stream.id := by
  cases answer <;> rfl

/-- The time of a packet overflows. -/
theorem send_of_overflow (hoverflow : stream.inlet.packets? interfaceId batch = none) :
    stream.send resources interfaceId batch = (resources, stream, .error .overflow) := by
  rw [send, hoverflow]

/-- Nothing to send. -/
theorem send_of_nil (hpackets : stream.inlet.packets? interfaceId batch = some []) :
    stream.send resources interfaceId batch = (resources, stream, .ok 0) := by
  rw [send, hpackets]
  rfl

/-- The packets cannot be encoded. -/
theorem send_of_encode_error (hpackets : stream.inlet.packets? interfaceId batch = some packets) (hsome : packets ≠ [])
    {error : LinkError}
    (hencode : resources.encoders.encode stream.id.toNat resources.limits packets = (encoders, .error error)) :
    stream.send resources interfaceId batch
      = ({ resources with encoders }, { stream with packetsDropped := stream.packetsDropped + packets.length },
          .error (.refused error)) := by
  rw [← List.isEmpty_eq_false_iff] at hsome
  simp only [send, hpackets, hsome, hencode, Bool.false_eq_true, if_false]

/-- The frames of the packets are handed over. -/
theorem send_of_encode_ok (hpackets : stream.inlet.packets? interfaceId batch = some packets) (hsome : packets ≠ [])
    {frames : List Bytes}
    (hencode : resources.encoders.encode stream.id.toNat resources.limits packets = (encoders, .ok frames)) :
    stream.send resources interfaceId batch
      = ({ resources with encoders, sender := (sendAll resources.sender frames).1 },
          stream.afterSending packets.length frames.length (sendAll resources.sender frames).2,
          ((sendAll resources.sender frames).2.map fun _ => frames.length).mapError .refused) := by
  rw [← List.isEmpty_eq_false_iff] at hsome
  simp only [send, hpackets, hsome, hencode, Bool.false_eq_true, if_false, LinkResources.sendFrames]
  rcases sendAll resources.sender frames with ⟨sender, error | _⟩ <;> rfl

end

variable {held : Nat → Option StreamLabel} {key : Nat}

/-- The encoder of a stream in use has its label. -/
theorem exists_encoder (h : resources.InStep held) (hkey : held key = some stream.label) :
    ∃ encoder, resources.encoders.encoder? stream.id.toNat = some encoder
      ∧ encoder.binding = stream.label.binding resources.deviceId :=
  Option.map_eq_some_iff.mp (h.serves.bound hkey)

/-- A batch of a stream in use is never refused by its encoder: nothing happens, as the time of a packet overflows or
there is nothing to send, or its frames go to the sender. -/
theorem send_cases [FrameSender T] (h : resources.InStep held) (hkey : held key = some stream.label)
    (husable : resources.limits.Usable) (interfaceId : UInt32) (batch : SignalBatch) :
    (∃ answer, stream.send resources interfaceId batch = (resources, stream, answer)
        ∧ (stream.inlet.packets? interfaceId batch = none ∧ answer = .error .overflow
          ∨ stream.inlet.packets? interfaceId batch = some [] ∧ answer = .ok 0))
      ∨ ∃ packets encoder frames sent,
        stream.inlet.packets? interfaceId batch = some packets
          ∧ resources.encoders.encoder? stream.id.toNat = some encoder
          ∧ encoder.binding = stream.label.binding resources.deviceId
          ∧ (encoder.encode resources.limits packets).2 = .ok frames
          ∧ sendAll resources.sender frames = sent
          ∧ (stream.send resources interfaceId batch).1
            = { resources with
                encoders := (resources.encoders.encode stream.id.toNat resources.limits packets).1
                sender := sent.1 }
          ∧ ((∃ error, sent.2 = .error error
              ∧ (stream.send resources interfaceId batch).2 = (stream, .error (.refused error)))
            ∨ (sent.2 = .ok () ∧ (stream.send resources interfaceId batch).2
              = ({ stream with
                    packetsSent := stream.packetsSent + packets.length
                    framesSent := stream.framesSent + frames.length }, .ok frames.length))) := by
  cases hpackets : stream.inlet.packets? interfaceId batch with
  | none => exact .inl ⟨_, send_of_overflow hpackets, .inl ⟨rfl, rfl⟩⟩
  | some packets =>
    by_cases hnone : packets = []
    · subst hnone
      exact .inl ⟨_, send_of_nil hpackets, .inr ⟨rfl, rfl⟩⟩
    · obtain ⟨encoder, hencoder, hbinding⟩ := exists_encoder h hkey
      have haccepts : ∀ packet ∈ packets, encoder.accepts packet = true := by
        intro packet hpacket
        obtain ⟨hsendable, htype, -⟩ := SignalInlet.mem_packets? hpackets hpacket
        refine Encoder.accepts_of_sendable hsendable ?_
        rw [htype]
        exact congrArg Encoder.payloadType hbinding
      have hframes := Encoder.encode_of_accepts husable haccepts
      have hencode := EncoderRack.encode_of_encoder? hencoder resources.limits packets
      refine .inr ⟨packets, encoder, _, _, rfl, hencoder, hbinding, hframes, rfl, ?_⟩
      rw [hframes] at hencode
      rw [send_of_encode_ok hpackets hnone hencode, hencode]
      rcases sendAll resources.sender _ with ⟨sender, error | _⟩
      · exact ⟨rfl, .inl ⟨error, rfl, rfl⟩⟩
      · exact ⟨rfl, .inr ⟨rfl, rfl⟩⟩

/-! ### Every operation leaves the shared parts in step -/

/-- What an operation of the stream that holds `key` leaves behind. -/
structure Follows (held : Nat → Option StreamLabel) (key : Nat) (resources : LinkResources T) (stream : CaptureStream)
    (after : LinkResources T) (next : CaptureStream) : Prop where
  inStep : after.InStep (Function.update held key (some next.label))
  interfaceIds : after.interfaceIds = resources.interfaceIds
  deviceId : after.deviceId = resources.deviceId
  limits : after.limits = resources.limits
  owner : next.owner = stream.owner
  settled : stream.inlet.Settled → next.inlet.Settled

/-- An operation that keeps the label and the books. -/
theorem follows_of_label (h : resources.InStep held) (hkey : held key = some stream.label)
    (hbooks : resources.SameBooks after) (hlabel : next.label = stream.label) (howner : next.owner = stream.owner)
    (hsettled : stream.inlet.Settled → next.inlet.Settled) : Follows held key resources stream after next where
  inStep := by
    rw [hlabel, ← hkey, Function.update_eq_self]
    exact hbooks.inStep h
  interfaceIds := hbooks.interfaceIds
  deviceId := hbooks.deviceId
  limits := hbooks.limits
  owner := howner
  settled := hsettled

theorem follows_refl (h : resources.InStep held) (hkey : held key = some stream.label) :
    Follows held key resources stream resources stream :=
  follows_of_label h hkey (.refl _) rfl rfl fun hsettled => hsettled

theorem Follows.trans {middle : LinkResources T} {between : CaptureStream}
    (hfirst : Follows held key resources stream middle between)
    (hsecond : Follows (Function.update held key (some between.label)) key middle between after next) :
    Follows held key resources stream after next where
  inStep := by
    have hinStep := hsecond.inStep
    rwa [Function.update_idem] at hinStep
  interfaceIds := hsecond.interfaceIds.trans hfirst.interfaceIds
  deviceId := hsecond.deviceId.trans hfirst.deviceId
  limits := hsecond.limits.trans hfirst.limits
  owner := hsecond.owner.trans hfirst.owner
  settled := hsecond.settled ∘ hfirst.settled

theorem moveToId_follows (h : resources.InStep held) (hkey : held key = some stream.label) (id : UInt8) :
    Follows held key resources stream (moveToId resources stream id).1 (moveToId resources stream id).2.1 := by
  rcases moveToId_cases h.serves.size stream id with ⟨applied, hmove⟩ | ⟨hcovers, hfree, hmove⟩
  · rw [hmove]
    exact follows_refl h hkey
  · rw [hmove]
    have hinStep : LinkResources.InStep _ (Function.update held key (some ⟨id, stream.payloadType⟩)) :=
      h.move hkey hcovers hfree
    exact ⟨hinStep, rfl, rfl, rfl, rfl, fun hsettled => hsettled⟩

theorem moveToPayloadType_follows (h : resources.InStep held) (hkey : held key = some stream.label)
    (payloadType : PayloadType) :
    Follows held key resources stream (moveToPayloadType resources stream payloadType).1
      (moveToPayloadType resources stream payloadType).2.1 := by
  rcases moveToPayloadType_cases resources stream payloadType with hmove | ⟨encoder, -, hencoder, hmove⟩
  · rw [hmove]
    exact follows_refl h hkey
  · rw [hmove]
    obtain ⟨found, hfound, hbinding⟩ := exists_encoder h hkey
    rw [hencoder, Option.some.injEq] at hfound
    subst hfound
    have hlabel : CaptureStream.label { stream with inlet := stream.inlet.retype payloadType }
        = ⟨stream.id, payloadType⟩ := by
      rw [label, CaptureStream.payloadType, SignalInlet.retype_payloadType]
    have hencoded : Encoder.binding { encoder with payloadType := some payloadType }
        = StreamLabel.binding resources.deviceId ⟨stream.id, payloadType⟩ := by
      show { encoder.binding with payloadType := some payloadType } = _
      rw [hbinding]
      rfl
    have hinStep : LinkResources.InStep _ (Function.update held key (some ⟨stream.id, payloadType⟩)) :=
      h.retype hkey rfl hencoded
    rw [← hlabel] at hinStep
    exact ⟨hinStep, rfl, rfl, rfl, rfl, fun _ => SignalInlet.settled_retype stream.inlet payloadType⟩

/-- Staging changes keeps the label. -/
theorem follows_stage (h : resources.InStep held) (hkey : held key = some stream.label)
    (staged : Option StreamUpdate) : Follows held key resources stream resources { stream with staged } :=
  follows_of_label h hkey (.refl _) rfl rfl fun hsettled => hsettled

theorem changeId_follows (h : resources.InStep held) (hkey : held key = some stream.label) (id : UInt8) :
    Follows held key resources stream (changeId resources stream id).1 (changeId resources stream id).2.1 := by
  rw [changeId]
  split
  · exact follows_stage h hkey _
  · exact moveToId_follows h hkey id

theorem changePayloadType_follows (h : resources.InStep held) (hkey : held key = some stream.label)
    (payloadType : PayloadType) :
    Follows held key resources stream (changePayloadType resources stream payloadType).1
      (changePayloadType resources stream payloadType).2.1 := by
  rw [changePayloadType]
  split
  · exact follows_stage h hkey _
  · exact moveToPayloadType_follows h hkey payloadType

/-- A staged change is applied or there is none. -/
theorem applyStaged_follows {α : Type}
    {apply : LinkResources T → CaptureStream → α → LinkResources T × CaptureStream × Bool}
    (h : resources.InStep held) (hkey : held key = some stream.label) (value : Option α)
    (happly : ∀ value, Follows held key resources stream (apply resources stream value).1
      (apply resources stream value).2.1) :
    Follows held key resources stream (applyStaged apply resources stream value).1
      (applyStaged apply resources stream value).2.1 := by
  cases value with
  | none => exact follows_refl h hkey
  | some value => exact happly value

theorem commit_follows (h : resources.InStep held) (hkey : held key = some stream.label) :
    Follows held key resources stream (commit resources stream).1 (commit resources stream).2.1 := by
  rw [commit]
  split
  · exact follows_refl h hkey
  · rename_i update _
    have hcleared : held key = some (label { stream with staged := none }) := hkey
    have htyped := applyStaged_follows h hcleared update.payloadType
      fun payloadType => moveToPayloadType_follows h hcleared payloadType
    have hmoved := applyStaged_follows htyped.inStep (Function.update_self ..) update.id
      fun id => moveToId_follows htyped.inStep (Function.update_self ..) id
    have hboth := htyped.trans hmoved
    exact ⟨hboth.inStep, hboth.interfaceIds, hboth.deviceId, hboth.limits, hboth.owner, hboth.settled⟩

theorem send_follows [FrameSender T] (h : resources.InStep held) (hkey : held key = some stream.label)
    (husable : resources.limits.Usable) (interfaceId : UInt32) (batch : SignalBatch) :
    Follows held key resources stream (stream.send resources interfaceId batch).1
      (stream.send resources interfaceId batch).2.1 := by
  rcases send_cases h hkey husable interfaceId batch with
    ⟨answer, hsend, -⟩ | ⟨packets, encoder, frames, sent, -, -, -, -, -, hsend, hnext⟩
  · rw [hsend]
    exact follows_refl h hkey
  · rw [hsend]
    have hbooks := LinkResources.sameBooks_encode resources stream.id.toNat packets sent.1
    rcases hnext with ⟨error, -, hnext⟩ | ⟨-, hnext⟩
    · rw [hnext]
      exact follows_of_label h hkey hbooks rfl rfl fun hsettled => hsettled
    · rw [hnext]
      exact follows_of_label h hkey hbooks rfl rfl fun hsettled => hsettled

/-! ### What is refused changes nothing -/

theorem changeId_refused (h : resources.InStep held) {id : UInt8}
    (hrefused : (changeId resources stream id).2.2 = false) :
    (changeId resources stream id).1 = resources ∧ (changeId resources stream id).2.1 = stream := by
  rw [changeId] at hrefused ⊢
  split at hrefused
  · cases hrefused
  · rcases moveToId_cases h.serves.size stream id with ⟨applied, hmove⟩ | ⟨-, -, hmove⟩
    · rw [hmove]
      exact ⟨rfl, rfl⟩
    · rw [hmove] at hrefused
      cases hrefused

theorem changePayloadType_refused {payloadType : PayloadType}
    (hrefused : (changePayloadType resources stream payloadType).2.2 = false) :
    (changePayloadType resources stream payloadType).1 = resources
      ∧ (changePayloadType resources stream payloadType).2.1 = stream := by
  rw [changePayloadType] at hrefused ⊢
  split at hrefused
  · cases hrefused
  · rcases moveToPayloadType_cases resources stream payloadType with hmove | ⟨encoder, -, -, hmove⟩
    · rw [hmove]
      exact ⟨rfl, rfl⟩
    · rw [hmove] at hrefused
      cases hrefused

theorem send_refused [FrameSender T] (h : resources.InStep held) (hkey : held key = some stream.label)
    (husable : resources.limits.Usable) {interfaceId : UInt32} {batch : SignalBatch} {failure : SendFailure}
    (hrefused : (stream.send resources interfaceId batch).2.2 = .error failure) :
    resources.SameBooks (stream.send resources interfaceId batch).1
      ∧ (stream.send resources interfaceId batch).2.1 = stream := by
  rcases send_cases h hkey husable interfaceId batch with
    ⟨answer, hsend, -⟩ | ⟨packets, encoder, frames, sent, -, -, -, -, -, hsend, hnext⟩
  · rw [hsend]
    exact ⟨.refl _, rfl⟩
  · rw [hsend]
    refine ⟨LinkResources.sameBooks_encode .., ?_⟩
    rcases hnext with ⟨_, -, hnext⟩ | ⟨-, hnext⟩
    · rw [hnext]
    · rw [hnext] at hrefused
      cases hrefused

end CaptureStream

end CaptureProtocol
