import CaptureProtocol.Proofs.Encoding
import CaptureProtocol.Proofs.Reception
import Mathlib

/-!
# What is sent arrives

A decoder that receives all frames of a list of packets, in order, gives back the packets: with the address of the
encoder, without position bits, and with payloads in canonical form.  It does not matter what the decoder held
before, nor how many zero bytes follow a frame.

The frames themselves are read back under any message kind: what becomes of a payload under a kind that does not carry
it is the payload that its bytes are read as.

* `Encoder.asRead` — what is read of a packet; `Encoder.delivered` — what arrives of a packet under the kind that its
  payload needs;
* `decode_members`, `decode_shared` — a frame with whole messages gives its packets;
* `laterSegments`, `segments_eq` — the parts of a packet after the first; `receive_laterSegments` — they complete
  the payload that the first part opened;
* `receive_drafts`, `receive_laidOut` — all frames of a layout;
* `receive_encode` — all frames of a call.
-/

namespace CaptureProtocol

namespace Encoder

/-- What arrives of a packet. -/
def delivered (encoder : Encoder) (packet : Packet) : Packet :=
  { packet with
    version := protocolVersion
    deviceId := encoder.deviceId
    streamId := encoder.streamId
    flags := packet.flags.withSegmentation .unsegmented
    payload := packet.payload.canonical }

/-- What is read of a packet, whatever the kind that it is sent under. -/
def asRead (encoder : Encoder) (packet : Packet) : Packet :=
  { packet with
    version := protocolVersion
    messageType := .ofRaw packet.messageType.toRaw
    deviceId := encoder.deviceId
    streamId := encoder.streamId
    flags := packet.flags.withSegmentation .unsegmented
    payload := .parse (.ofRaw packet.messageType.toRaw) packet.payload.rawType packet.payload.toBytes }

/-- Under the kind that its payload needs, a packet is read as it should arrive. -/
theorem asRead_of_sendable (encoder : Encoder) {packet : Packet} (h : packet.Sendable) :
    encoder.asRead packet = encoder.delivered packet := by
  rw [asRead, delivered, MessageType.ofRaw_toRaw_of_carries h.kind, Payload.parse_toBytes h.valid h.kind]

/-- The address under which a packet arrives. -/
def addressOf (encoder : Encoder) (packet : Packet) : StreamKey :=
  ⟨encoder.deviceId, packet.interfaceId, encoder.streamId⟩

@[simp] theorem addressOf_advance (encoder : Encoder) (count : Nat) :
    (encoder.advance count).addressOf = encoder.addressOf := rfl

end Encoder

/-! ### Messages of a packet -/

/-- A part of a packet with a valid payload announces its body, as long as its length can be announced. -/
theorem Message.wellFormed_ofPacket {packet : Packet} {position : Segmentation} {body : Bytes}
    (hvalid : packet.payload.isValid = true) (hlength : body.length ≤ 65535) :
    (Message.ofPacket packet position body).WellFormed where
  length := by
    simp only [Message.ofPacket]
    rw [UInt16.toNat_ofNat', Nat.mod_eq_of_lt (by omega)]
  type := Payload.rawType_ne_zero hvalid

/-- The whole body under the header of any part makes the packet that is read. -/
theorem packetOf_asRead (encoder : Encoder) (packet : Packet) (index : Nat) (position : Segmentation) (body : Bytes) :
    packetOf (encoder.frameHeader packet.messageType index).asRead (Message.ofPacket packet position body).header
        (.parse (.ofRaw packet.messageType.toRaw) packet.payload.rawType packet.payload.toBytes)
      = encoder.asRead packet := by
  simp only [packetOf, FrameHeader.asRead, Encoder.frameHeader, Message.ofPacket, Encoder.asRead,
    MessageFlags.withSegmentation_withSegmentation]

/-- The whole body under the header of any part makes the packet that arrives. -/
theorem packetOf_ofPacket (encoder : Encoder) {packet : Packet} (hsendable : packet.Sendable) (index : Nat)
    (position : Segmentation) (body : Bytes) :
    packetOf (encoder.frameHeader packet.messageType index) (Message.ofPacket packet position body).header
        (.parse packet.messageType packet.payload.rawType packet.payload.toBytes)
      = encoder.delivered packet := by
  have hread := packetOf_asRead encoder packet index position body
  rwa [FrameHeader.asRead_of_kind (MessageType.ofRaw_toRaw_of_carries hsendable.kind),
    MessageType.ofRaw_toRaw_of_carries hsendable.kind, encoder.asRead_of_sendable hsendable] at hread

/-! ### Frames that are shared -/

/-- A frame arrives as it was written, with zero bytes after it. -/
def Carries (frame : Bytes) (arrival : Arrival) : Prop :=
  ∃ extra, arrival.bytes = frame ++ List.replicate extra 0

namespace FrameDraft.Shares

variable {limits : FrameLimits} {draft : FrameDraft} {members : List Packet}

/-- The kind of a frame with valid payloads is read back. -/
theorem ofRaw_toRaw (h : draft.Shares limits members) (hsendable : ∀ packet ∈ members, packet.Sendable) :
    MessageType.ofRaw draft.messageType.toRaw = draft.messageType := by
  obtain ⟨packet, hpacket⟩ := List.exists_mem_of_ne_nil _ h.nonempty
  rw [← h.kind packet hpacket]
  exact MessageType.ofRaw_toRaw_of_carries (hsendable packet hpacket).kind

theorem wellFormed (h : draft.Shares limits members)
    (hvalid : ∀ packet ∈ members, packet.payload.isValid = true) :
    ∀ message ∈ draft.messages, message.WellFormed := by
  intro message hmessage
  rw [h.messages] at hmessage
  obtain ⟨packet, hpacket, rfl⟩ := List.mem_map.mp hmessage
  have hfits : ¬ limits.bodyCapacity < packet.payload.toBytes.length := of_decide_eq_false (h.fits packet hpacket)
  have hcapacity := limits.capacity_le
  exact Message.wellFormed_ofPacket (hvalid packet hpacket) (by omega)

end FrameDraft.Shares

namespace Decoder

/-- A written frame is received as its messages, after what is stale was forgotten. -/
theorem decode_frame (decoder : Decoder) {encoder : Encoder} {limits : FrameLimits} {index : Nat}
    {draft : FrameDraft} {arrival : Arrival}
    (hcarries : Carries (encoder.writeFrame limits index draft) arrival)
    (hmessages : ∀ message ∈ draft.messages, message.WellFormed) :
    decoder.decode arrival.time arrival.bytes
      = Run.collect (accept arrival.time (encoder.frameHeader draft.messageType index).asRead)
          (decoder.expire arrival.time).1 (draft.messages.map Piece.whole) := by
  obtain ⟨extra, hbytes⟩ := hcarries
  rw [hbytes, decode_of_read (encoder.read_writeFrame limits index extra draft), cut_write _ _ hmessages]

theorem collect_wholes (now : Nat) (decoder : Decoder) (encoder : Encoder) (kind : MessageType) (index : Nat)
    {members : List Packet} (hkind : ∀ packet ∈ members, packet.messageType = kind) :
    Run.collect (accept now (encoder.frameHeader kind index).asRead) decoder
        ((members.map Message.ofWhole).map Piece.whole)
      = (decoder, members.map encoder.asRead) := by
  rw [List.map_map, Run.collect_map]
  refine Run.collect_steady encoder.asRead fun packet hmember => ?_
  have hpacket := packetOf_asRead encoder packet index .unsegmented packet.payload.toBytes
  rw [hkind packet hmember] at hpacket
  simp only [Function.comp_apply, accept, Message.ofWhole, Message.ofPacket,
    MessageFlags.segmentation_withSegmentation]
  exact congrArg (fun packet => (decoder, [packet])) hpacket

/-- A frame with whole messages is read as its packets, whatever their kind; only what is stale is forgotten. -/
theorem decode_members (decoder : Decoder) {encoder : Encoder} {limits : FrameLimits} {index : Nat}
    {draft : FrameDraft} {members : List Packet} {arrival : Arrival}
    (hcarries : Carries (encoder.writeFrame limits index draft) arrival)
    (hshares : draft.Shares limits members) (hvalid : ∀ packet ∈ members, packet.payload.isValid = true) :
    decoder.decode arrival.time arrival.bytes
      = ((decoder.expire arrival.time).1, members.map encoder.asRead) := by
  rw [decode_frame decoder hcarries (hshares.wellFormed hvalid), hshares.messages]
  exact collect_wholes _ _ _ _ _ hshares.kind

/-- A frame with whole messages gives its packets; only what is stale is forgotten. -/
theorem decode_shared (decoder : Decoder) {encoder : Encoder} {limits : FrameLimits} {index : Nat}
    {draft : FrameDraft} {members : List Packet} {arrival : Arrival}
    (hcarries : Carries (encoder.writeFrame limits index draft) arrival)
    (hshares : draft.Shares limits members) (hsendable : ∀ packet ∈ members, packet.Sendable) :
    decoder.decode arrival.time arrival.bytes
      = ((decoder.expire arrival.time).1, members.map encoder.delivered) := by
  rw [decode_members decoder hcarries hshares fun packet h => (hsendable packet h).valid]
  exact congrArg (Prod.mk _) (List.map_congr_left fun packet h => encoder.asRead_of_sendable (hsendable packet h))

end Decoder

/-! ### Frames with the parts of one packet -/

/-- The parts of a packet after the first. -/
def laterSegments (packet : Packet) : List Bytes → List Message
  | [] => []
  | [part] => [.ofPacket packet .last part]
  | part :: next :: parts => .ofPacket packet .intermediary part :: laterSegments packet (next :: parts)

theorem mapIdx_eq_laterSegments (packet : Packet) (before : Nat) (hbefore : 0 < before) (parts : List Bytes) :
    parts.mapIdx (fun index part =>
        Message.ofPacket packet (segmentPosition (before + parts.length) (before + index)) part)
      = laterSegments packet parts := by
  induction parts generalizing before with
  | nil => rfl
  | cons part parts ih =>
    have hrest := ih (before + 1) (by omega)
    rw [List.mapIdx_cons, List.length_cons]
    cases parts with
    | nil =>
      have hposition : segmentPosition (before + (0 + 1)) (before + 0) = .last := by
        rw [segmentPosition, if_neg (by omega), if_pos (by omega)]
      rw [laterSegments, List.length_nil, hposition, List.mapIdx_nil]
    | cons next parts =>
      have hposition : segmentPosition (before + (parts.length + 1 + 1)) (before + 0) = .intermediary := by
        rw [segmentPosition, if_neg (by omega), if_neg (by omega)]
      rw [laterSegments, ← hrest, List.length_cons, hposition]
      refine congrArg (fun f => Message.ofPacket packet .intermediary part :: List.mapIdx f (next :: parts)) ?_
      funext index part
      rw [show before + (parts.length + 1 + 1) = before + 1 + (parts.length + 1) from by omega,
        show before + (index + 1) = before + 1 + index from by omega]

/-- The parts of a packet: the first, and those after it. -/
theorem segments_eq {capacity : Nat} {packet : Packet} {body part : Bytes} {parts : List Bytes}
    (hchunks : chunks capacity body = part :: parts) :
    segments capacity packet body = .ofPacket packet .first part :: laterSegments packet parts := by
  rw [segments, hchunks, List.mapIdx_cons, ← mapIdx_eq_laterSegments packet 1 Nat.one_pos parts]
  refine congrArg (fun f => Message.ofPacket packet .first part :: List.mapIdx f parts) ?_
  funext index part
  rw [List.length_cons, Nat.add_comm parts.length 1, Nat.add_comm index 1]

namespace Decoder

/-- A frame with one message is read as that message, whatever its kind, after what is stale was forgotten. -/
theorem decode_part (decoder : Decoder) {encoder : Encoder} {limits : FrameLimits} {index : Nat}
    {packet : Packet} {position : Segmentation} {body : Bytes} {arrival : Arrival}
    (hcarries : Carries
      (encoder.writeFrame limits index (.single packet.messageType (.ofPacket packet position body))) arrival)
    (hvalid : packet.payload.isValid = true) (hlength : body.length ≤ 65535) :
    decoder.decode arrival.time arrival.bytes
      = accept arrival.time (encoder.frameHeader packet.messageType index).asRead (decoder.expire arrival.time).1
          (.whole (.ofPacket packet position body)) := by
  have hmessages : ∀ message ∈ (FrameDraft.single packet.messageType (.ofPacket packet position body)).messages,
      message.WellFormed := by
    intro message hmessage
    rw [List.mem_singleton.mp hmessage]
    exact Message.wellFormed_ofPacket hvalid hlength
  rw [decode_frame decoder hcarries hmessages]
  show Run.collect _ _ [_] = _
  rw [Run.collect_cons, Run.collect_nil, List.append_nil]
  rfl

/-- A frame with one message is received as that message, after what is stale was forgotten. -/
theorem decode_single (decoder : Decoder) {encoder : Encoder} {limits : FrameLimits} {index : Nat}
    {packet : Packet} {position : Segmentation} {body : Bytes} {arrival : Arrival}
    (hcarries : Carries
      (encoder.writeFrame limits index (.single packet.messageType (.ofPacket packet position body))) arrival)
    (hsendable : packet.Sendable) (hlength : body.length ≤ 65535) :
    decoder.decode arrival.time arrival.bytes
      = accept arrival.time (encoder.frameHeader packet.messageType index) (decoder.expire arrival.time).1
          (.whole (.ofPacket packet position body)) := by
  rw [decode_part decoder hcarries hsendable.valid hlength,
    FrameHeader.asRead_of_kind (MessageType.ofRaw_toRaw_of_carries hsendable.kind)]

section Parts

variable (now : Nat) (encoder : Encoder) (index : Nat) (decoder : Decoder) (packet : Packet) (body : Bytes)

theorem segmentation_ofPacket (position : Segmentation) :
    (Message.ofPacket packet position body).header.flags.segmentation = position :=
  MessageFlags.segmentation_withSegmentation ..

theorem keyOf_ofPacket (kind : MessageType) (position : Segmentation) :
    keyOf (encoder.frameHeader kind index).asRead (Message.ofPacket packet position body).header
      = encoder.addressOf packet := rfl

theorem accept_first (kind : MessageType) :
    accept now (encoder.frameHeader kind index).asRead decoder (.whole (.ofPacket packet .first body))
      = (decoder.hold (encoder.addressOf packet)
          (.start now (encoder.frameHeader kind index).asRead (.ofPacket packet .first body)), []) := by
  simp only [accept, segmentation_ofPacket, keyOf_ofPacket]

variable {decoder} {pending : PendingPayload}

theorem accept_intermediary {kind : MessageType}
    (hpending : decoder.pending? (encoder.addressOf packet) = some pending)
    (hnext : pending.next = (encoder.frameHeader kind index).asRead.sequence) :
    accept now (encoder.frameHeader kind index).asRead decoder (.whole (.ofPacket packet .intermediary body))
      = (decoder.hold (encoder.addressOf packet) (pending.append body), []) := by
  simp only [accept, segmentation_ofPacket, proceed, keyOf_ofPacket, hpending, if_pos hnext]
  rfl

theorem accept_last {kind : MessageType}
    (hpending : decoder.pending? (encoder.addressOf packet) = some pending)
    (hnext : pending.next = (encoder.frameHeader kind index).asRead.sequence) :
    accept now (encoder.frameHeader kind index).asRead decoder (.whole (.ofPacket packet .last body))
      = (decoder.forget (encoder.addressOf packet), [(pending.append body).packet]) := by
  simp only [accept, segmentation_ofPacket, proceed, keyOf_ofPacket, hpending, if_pos hnext]
  rfl

end Parts

/-- The parts after the first complete the payload that is pending for their address.  The induction is on the
parts that are still to come; what carries it is that the pending payload waits for the encoder's next frame. -/
theorem receive_laterSegments {limits : FrameLimits} {packet : Packet} (hvalid : packet.payload.isValid = true)
    {parts : List Bytes} (hparts : parts ≠ []) (hlengths : ∀ part ∈ parts, part.length ≤ 65535)
    (encoder : Encoder) (decoder : Decoder) (pending : PendingPayload) {arrivals : List Arrival}
    (hnext : pending.next = encoder.sequence)
    (hcarries : List.Forall₂ Carries
      (encoder.writeFrames limits ((laterSegments packet parts).map (.single packet.messageType))) arrivals)
    (hundisturbed : (decoder.hold (encoder.addressOf packet) pending).Undisturbed arrivals) :
    (decoder.hold (encoder.addressOf packet) pending).receive arrivals
      = (decoder.forget (encoder.addressOf packet),
          [packetOf pending.frame pending.header
            (.parse pending.frame.messageType pending.header.payloadType (pending.body ++ parts.flatten))]) := by
  induction parts generalizing encoder decoder pending arrivals with
  | nil => exact absurd rfl hparts
  | cons part parts ih =>
    have hlength := hlengths part List.mem_cons_self
    have hsequence : pending.next = (encoder.frameHeader packet.messageType 0).asRead.sequence :=
      hnext.trans (encoder.sequence_frameHeader_zero packet.messageType).symm
    cases parts with
    | nil =>
      rw [laterSegments, List.map_singleton, Encoder.writeFrames_cons, Encoder.writeFrames_nil] at hcarries
      obtain ⟨arrival, rest, hcarried, hrest, rfl⟩ := List.forall₂_cons_left_iff.mp hcarries
      cases hrest
      rw [receive_cons, decode_part _ hcarried hvalid hlength, expire_of_fresh hundisturbed.1,
        accept_last _ _ _ _ _ (pending?_hold ..) hsequence, receive_nil, List.append_nil, forget_hold]
      simp only [PendingPayload.packet, PendingPayload.append, PendingPayload.body, List.reverse_cons,
        List.flatten_append, List.flatten_cons, List.flatten_nil, List.append_nil]
    | cons next parts =>
      rw [laterSegments, List.map_cons, Encoder.writeFrames_cons] at hcarries
      obtain ⟨arrival, rest, hcarried, hrest, rfl⟩ := List.forall₂_cons_left_iff.mp hcarries
      have hdecode : (decoder.hold (encoder.addressOf packet) pending).decode arrival.time arrival.bytes
          = (decoder.hold (encoder.addressOf packet) (pending.append part), []) := by
        rw [decode_part _ hcarried hvalid hlength, expire_of_fresh hundisturbed.1,
          accept_intermediary _ _ _ _ _ (pending?_hold ..) hsequence, hold_hold]
      have hlater := hundisturbed.2
      rw [hdecode] at hlater
      have hcount : (pending.append part).next = (encoder.advance 1).sequence := by
        rw [Encoder.sequence_advance_one, ← hnext]
        rfl
      rw [receive_cons, hdecode, List.nil_append]
      have hreceive := ih (List.cons_ne_nil _ _) (fun part h => hlengths part (List.mem_cons_of_mem _ h))
        (encoder.advance 1) decoder (pending.append part) hcount hrest hlater
      rw [Encoder.addressOf_advance] at hreceive
      rw [hreceive]
      simp only [PendingPayload.append, PendingPayload.body, List.reverse_cons, List.flatten_append,
        List.flatten_cons, List.flatten_nil, List.append_nil, List.append_assoc]

/-- All parts of a packet are read as the packet and leave nothing pending for its address. -/
theorem receive_cut {limits : FrameLimits} (husable : limits.Usable) {packet : Packet}
    (hvalid : packet.payload.isValid = true) (hcut : limits.cuts packet = true) (encoder : Encoder) (decoder : Decoder)
    {arrivals : List Arrival}
    (hcarries : List.Forall₂ Carries (encoder.writeFrames limits (cutDrafts limits packet)) arrivals)
    (hundisturbed : decoder.Undisturbed arrivals) :
    decoder.receive arrivals = (decoder.forget (encoder.addressOf packet), [encoder.asRead packet]) := by
  have hlong : limits.bodyCapacity < packet.payload.toBytes.length := of_decide_eq_true hcut
  have htwo := two_le_length_chunks husable.capacity_pos hlong
  have hflatten := flatten_chunks limits.bodyCapacity packet.payload.toBytes
  have hlengths : ∀ part ∈ chunks limits.bodyCapacity packet.payload.toBytes, part.length ≤ 65535 :=
    fun part hpart => (length_le_of_mem_chunks husable.capacity_pos hpart).trans limits.capacity_le
  cases hchunks : chunks limits.bodyCapacity packet.payload.toBytes with
  | nil => rw [hchunks] at htwo; simp at htwo
  | cons part parts =>
    rw [hchunks] at htwo hflatten hlengths
    have hparts : parts ≠ [] := by
      rintro rfl
      simp at htwo
    rw [cutDrafts, segments_eq hchunks, List.map_cons, Encoder.writeFrames_cons] at hcarries
    obtain ⟨arrival, rest, hcarried, hrest, rfl⟩ := List.forall₂_cons_left_iff.mp hcarries
    have hdecode := decode_part decoder hcarried hvalid (hlengths part List.mem_cons_self)
    rw [expire_of_fresh hundisturbed.1, accept_first] at hdecode
    have hlater := hundisturbed.2
    rw [hdecode] at hlater
    rw [receive_cons, hdecode, List.nil_append]
    have hreceive := receive_laterSegments hvalid hparts
      (fun part h => hlengths part (List.mem_cons_of_mem _ h)) (encoder.advance 1) decoder
      (.start arrival.time (encoder.frameHeader packet.messageType 0).asRead (.ofPacket packet .first part))
      (by rw [Encoder.sequence_advance_one, ← encoder.sequence_frameHeader_zero packet.messageType]; rfl) hrest hlater
    have hbody : (PendingPayload.start arrival.time (encoder.frameHeader packet.messageType 0).asRead
        (.ofPacket packet .first part)).body ++ parts.flatten = packet.payload.toBytes := by
      simpa [PendingPayload.start, PendingPayload.body, Message.ofPacket] using hflatten
    rw [hbody, Encoder.addressOf_advance] at hreceive
    rw [hreceive]
    exact congrArg (fun received => (decoder.forget (encoder.addressOf packet), [received]))
      (packetOf_asRead encoder packet 0 .first part)

/-! ### All frames of a call -/

/-- The decoder without what is pending for some addresses. -/
def without (decoder : Decoder) (keys : List StreamKey) : Decoder :=
  { decoder with pending := decoder.pending.filter fun entry => entry.1 ∉ keys }

@[simp] theorem without_nil (decoder : Decoder) : decoder.without [] = decoder := by
  simp [without]

theorem without_forget (decoder : Decoder) (key : StreamKey) (keys : List StreamKey) :
    (decoder.forget key).without keys = decoder.without (key :: keys) := by
  rw [without, without, forget, List.filter_filter]
  congr 1
  refine List.filter_congr fun entry _ => ?_
  by_cases hkey : entry.1 = key <;> simp [hkey]

/-- Frames that arrive split where the frames that were sent split. -/
theorem carries_split {front back : List Bytes} {arrivals : List Arrival}
    (h : List.Forall₂ Carries (front ++ back) arrivals) :
    ∃ frontArrivals backArrivals, arrivals = frontArrivals ++ backArrivals
      ∧ List.Forall₂ Carries front frontArrivals ∧ List.Forall₂ Carries back backArrivals := by
  induction front generalizing arrivals with
  | nil => exact ⟨[], arrivals, rfl, .nil, h⟩
  | cons frame front ih =>
    obtain ⟨arrival, rest, hcarried, hrest, rfl⟩ := List.forall₂_cons_left_iff.mp h
    obtain ⟨frontArrivals, backArrivals, rfl, hfront, hback⟩ := ih hrest
    exact ⟨arrival :: frontArrivals, backArrivals, rfl, .cons hcarried hfront, hback⟩

/-- The frames of a layout are read as its packets, in order and whatever their kind.  Only what was pending for the
packets that are cut is lost.  The induction is on the shape of the layout. -/
theorem receive_drafts {limits : FrameLimits} (husable : limits.Usable) {packets : List Packet}
    {drafts : List FrameDraft} (hlaidOut : LaidOut limits packets drafts)
    (hvalid : ∀ packet ∈ packets, packet.payload.isValid = true) (encoder : Encoder) (decoder : Decoder)
    {arrivals : List Arrival} (hcarries : List.Forall₂ Carries (encoder.writeFrames limits drafts) arrivals)
    (hundisturbed : decoder.Undisturbed arrivals) :
    decoder.receive arrivals
      = (decoder.without ((packets.filter limits.cuts).map encoder.addressOf), packets.map encoder.asRead) := by
  induction hlaidOut generalizing encoder decoder arrivals with
  | nil =>
    cases hcarries
    rw [receive_nil, List.filter_nil, List.map_nil, List.map_nil, without_nil]
  | @shared draft members packets drafts hshares _ ih =>
    rw [Encoder.writeFrames_cons] at hcarries
    obtain ⟨arrival, rest, hcarried, hrest, rfl⟩ := List.forall₂_cons_left_iff.mp hcarries
    have hdecode := decode_members decoder hcarried hshares
      fun packet h => hvalid packet (List.mem_append_left _ h)
    rw [expire_of_fresh hundisturbed.1] at hdecode
    have hlater := hundisturbed.2
    rw [hdecode] at hlater
    have hnone : members.filter limits.cuts = [] :=
      List.filter_eq_nil_iff.mpr fun packet h => by rw [hshares.fits packet h]; decide
    rw [receive_cons, hdecode,
      ih (fun packet h => hvalid packet (List.mem_append_right _ h)) (encoder.advance 1) decoder hrest hlater,
      List.filter_append, hnone, List.nil_append, List.map_append]
    rfl
  | @cut packet packets drafts hcut _ ih =>
    rw [Encoder.writeFrames_append] at hcarries
    obtain ⟨front, back, rfl, hfront, hback⟩ := carries_split hcarries
    obtain ⟨hundisturbedFront, hlater⟩ := undisturbed_append.mp hundisturbed
    have hreceive := receive_cut husable (hvalid packet List.mem_cons_self) hcut encoder decoder hfront
      hundisturbedFront
    rw [hreceive] at hlater
    rw [receive_append, hreceive,
      ih (fun packet h => hvalid packet (List.mem_cons_of_mem _ h)) (encoder.advance _) _ hback hlater,
      List.filter_cons_of_pos hcut, List.map_cons, List.map_cons, ← without_forget]
    rfl

/-- The frames of a layout give its packets, in order.  Only what was pending for the packets that are cut is
lost. -/
theorem receive_laidOut {limits : FrameLimits} (husable : limits.Usable) {packets : List Packet}
    {drafts : List FrameDraft} (hlaidOut : LaidOut limits packets drafts)
    (hsendable : ∀ packet ∈ packets, packet.Sendable) (encoder : Encoder) (decoder : Decoder)
    {arrivals : List Arrival} (hcarries : List.Forall₂ Carries (encoder.writeFrames limits drafts) arrivals)
    (hundisturbed : decoder.Undisturbed arrivals) :
    decoder.receive arrivals
      = (decoder.without ((packets.filter limits.cuts).map encoder.addressOf), packets.map encoder.delivered) := by
  rw [receive_drafts husable hlaidOut (fun packet h => (hsendable packet h).valid) encoder decoder hcarries
    hundisturbed]
  exact congrArg (Prod.mk _) (List.map_congr_left fun packet h => encoder.asRead_of_sendable (hsendable packet h))

/-- What an encoder sends, a decoder receives: all packets of a call in order, and nothing else. -/
theorem receive_encode {encoder : Encoder} {limits : FrameLimits} {packets : List Packet} {frames : List Bytes}
    {decoder : Decoder} {arrivals : List Arrival}
    (hencode : (encoder.encode limits packets).2 = .ok frames)
    (hkind : ∀ packet ∈ packets, packet.payloadType.messageType? = some packet.messageType)
    (hcarries : List.Forall₂ Carries frames arrivals) (hundisturbed : decoder.Undisturbed arrivals) :
    decoder.receive arrivals
      = (decoder.without ((packets.filter limits.cuts).map encoder.addressOf), packets.map encoder.delivered) := by
  obtain ⟨husable, haccepts, rfl, -⟩ := Encoder.encode_ok hencode
  have hsendable : ∀ packet ∈ packets, packet.Sendable := fun packet hpacket =>
    ⟨Encoder.isValid_of_accepts (haccepts packet hpacket), hkind packet hpacket⟩
  exact receive_laidOut husable (layout_laidOut limits packets) hsendable encoder decoder hcarries hundisturbed

end Decoder

/-- An encoder whose next call wraps the frame number. -/
def wrappingEncoder : Encoder := { slot := 9, deviceId := 7, streamId := 9, sequence := 65535 }

/-- A CAN frame that fits frames of 44 bytes, and one that does not. -/
def busFrames : List Packet :=
  [.ofPayload 1 10 (.can (.ofIdentifier 0x123 [1, 2, 3])),
   .ofPayload 2 20 (.can (.ofIdentifier 0x124 [1, 2, 3, 4, 5, 6, 7, 8]))]

/-- A decoder in the middle of two payloads, one of them with the address of the second CAN frame. -/
def busyDecoder : Decoder := { pending := [(⟨7, 2, 9⟩, default), (⟨3, 0, 0⟩, default)] }

namespace Decoder

/-- The two CAN frames arrive, each frame with three more zero bytes; the stale first part is lost. -/
theorem receive_encode_busFrames :
    ∃ frames, (wrappingEncoder.encode ⟨30, 44⟩ busFrames).2 = .ok frames
      ∧ (∀ packet ∈ busFrames, packet.payloadType.messageType? = some packet.messageType)
      ∧ List.Forall₂ Carries frames (frames.map fun frame => ⟨5, frame ++ List.replicate 3 0⟩)
      ∧ busyDecoder.Undisturbed (frames.map fun frame => ⟨5, frame ++ List.replicate 3 0⟩)
      ∧ busyDecoder.receive (frames.map fun frame => ⟨5, frame ++ List.replicate 3 0⟩)
        = ({ pending := [(⟨3, 0, 0⟩, default)] },
            busFrames.map fun packet => { packet with deviceId := 7, streamId := 9 }) := by
  have hencode : (wrappingEncoder.encode ⟨30, 44⟩ busFrames).2
      = .ok (wrappingEncoder.writeFrames ⟨30, 44⟩ (layout ⟨30, 44⟩ busFrames)) := by
    rw [Encoder.encode_of_usable busFrames (by decide)]
    rfl
  have hcarries : ∀ frames : List Bytes,
      List.Forall₂ Carries frames (frames.map fun frame => ⟨5, frame ++ List.replicate 3 0⟩) :=
    fun frames => List.forall₂_map_right_iff.mpr (List.forall₂_same.mpr fun _ _ => ⟨3, rfl⟩)
  have hundisturbed : ∀ frames : List Bytes,
      busyDecoder.Undisturbed (frames.map fun frame => ⟨5, frame ++ List.replicate 3 0⟩) := by
    intro frames
    refine undisturbed_of_within 5 (by unfold Fresh Every; decide) fun arrival harrival => ?_
    obtain ⟨frame, -, rfl⟩ := List.mem_map.mp harrival
    exact ⟨le_refl 5, (by decide : 5 - 5 < 2000)⟩
  refine ⟨_, hencode, by decide, hcarries _, hundisturbed _, ?_⟩
  exact (receive_encode hencode (by decide) (hcarries _) (hundisturbed _)).trans rfl

end Decoder

end CaptureProtocol
