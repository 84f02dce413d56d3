import CaptureProtocol.Proofs.RoundTrip
import Mathlib

/-!
# The frames of a call

What the frames of a call look like from outside: their lengths, their headers, and which messages stand in which
frame.  A packet that fits stands in one frame as one whole message; a longer one has a row of frames of its own.

* `length_chunks`, `length_of_mem_dropLast_chunks` — how many chunks there are, and that only the last may be shorter;
* `forall_mem_layout` — what holds of a frame with one message, and is kept by one more, holds of all frames;
* `FrameDraft.Counted`, `FrameDraft.Measured` — a frame knows its length, and keeps within the limits;
  `Encoder.length_writeFrame`;
* `Message.WholeOf`, `Packet.CutInto`, `Packs` — which messages the frames of a list of packets hold;
  `LaidOut.packs`: those of a layout are such frames;
* `Encoder.Sends` — a frame as its reader finds it;
* `Encoder.encode_packs` — everything together.
-/

namespace CaptureProtocol

/-! ### Chunks of one size -/

/-- A list has as many chunks as it takes to hold it. -/
theorem length_chunks {α : Type} {size : Nat} (hsize : 0 < size) (list : List α) :
    (chunks size list).length = list.length ⌈/⌉ size := by
  match list with
  | [] =>
    rw [chunks_nil, List.length_nil, List.length_nil, Nat.ceilDiv_eq_add_pred_div, Nat.zero_add,
      Nat.div_eq_of_lt (by omega)]
  | head :: tail =>
    have hrest := length_chunks hsize (tail.drop (size - 1))
    rw [chunks_cons, List.length_cons, hrest, List.length_drop, List.length_cons, Nat.ceilDiv_eq_add_pred_div,
      Nat.ceilDiv_eq_add_pred_div]
    by_cases hlong : size - 1 ≤ tail.length
    · have hsum : tail.length + 1 + size - 1 = tail.length - (size - 1) + size - 1 + size := by omega
      rw [hsum, Nat.add_div_right _ hsize]
    · have hnone : tail.length - (size - 1) + size - 1 < size := by omega
      have hone : tail.length + 1 + size - 1 = tail.length + size := by omega
      rw [Nat.div_eq_of_lt hnone, hone, Nat.add_div_right _ hsize, Nat.div_eq_of_lt (by omega)]
termination_by list.length
decreasing_by simp only [List.length_drop, List.length_cons]; omega

/-- Only the last chunk may be shorter than the size. -/
theorem length_of_mem_dropLast_chunks {α : Type} {size : Nat} (hsize : 0 < size) (list : List α) {chunk : List α}
    (hmem : chunk ∈ (chunks size list).dropLast) : chunk.length = size := by
  match list with
  | [] =>
    rw [chunks_nil] at hmem
    cases hmem
  | head :: tail =>
    rw [chunks_cons] at hmem
    by_cases hrest : chunks size (tail.drop (size - 1)) = []
    · rw [hrest] at hmem
      cases hmem
    · rw [List.dropLast_cons_of_ne_nil hrest, List.mem_cons] at hmem
      rcases hmem with rfl | hlater
      · -- there is a next chunk, so this one is full
        have hleft : tail.drop (size - 1) ≠ [] := by
          intro hnil
          rw [hnil, chunks_nil] at hrest
          exact hrest rfl
        have hlong : ¬ tail.length ≤ size - 1 := fun hle => hleft (List.drop_eq_nil_iff.mpr hle)
        rw [List.length_cons, List.length_take]
        omega
      · exact length_of_mem_dropLast_chunks hsize _ hlater
termination_by list.length
decreasing_by simp only [List.length_drop, List.length_cons]; omega

/-! ### What all frames of a layout have in common -/

section Everywhere

variable {limits : FrameLimits} {holds : FrameDraft → Prop}

theorem Layout.forall_place
    (hsingle : ∀ (packet : Packet) (position : Segmentation) (body : Bytes), body.length ≤ limits.bodyCapacity →
      holds (.single packet.messageType (.ofPacket packet position body)))
    (hadd : ∀ (draft : FrameDraft) (packet : Packet), holds draft →
      draft.admits limits packet.messageType (.ofWhole packet) = true → holds (draft.add (.ofWhole packet)))
    (hcapacity : 0 < limits.bodyCapacity) {layout : Layout} (hlayout : ∀ draft ∈ layout.close.closed, holds draft)
    (packet : Packet) : ∀ draft ∈ (layout.place limits packet).close.closed, holds draft := by
  have hclosed : ∀ draft ∈ layout.closed, holds draft := fun draft hdraft =>
    hlayout draft (List.mem_append_right _ hdraft)
  by_cases hlength : packet.payload.toBytes.length ≤ limits.bodyCapacity
  · have hopened : holds (.single packet.messageType (.ofWhole packet)) := hsingle packet _ _ hlength
    simp only [Layout.place, if_pos hlength]
    cases hcurrent : layout.current with
    | none => exact List.forall_mem_cons.mpr ⟨hopened, hclosed⟩
    | some draft =>
      simp only [Layout.close, hcurrent, Option.toList_some, List.singleton_append] at hlayout
      by_cases hadmits : draft.admits limits packet.messageType
          (.ofPacket packet .unsegmented packet.payload.toBytes) = true
      · simp only [if_pos hadmits]
        exact List.forall_mem_cons.mpr ⟨hadd draft packet (List.forall_mem_cons.mp hlayout).1 hadmits, hclosed⟩
      · simp only [if_neg hadmits, Layout.close, hcurrent]
        exact List.forall_mem_cons.mpr ⟨hopened, hlayout⟩
  · simp only [Layout.place, if_neg hlength]
    intro draft hdraft
    have hrow : draft ∈ ((segments limits.bodyCapacity packet packet.payload.toBytes).map
        (.single packet.messageType)).reverse ++ layout.close.closed := hdraft
    rcases List.mem_append.mp hrow with hpart | hbefore
    · rw [List.mem_reverse, List.mem_map] at hpart
      obtain ⟨message, hmessage, rfl⟩ := hpart
      obtain ⟨index, hindex, rfl⟩ := List.mem_mapIdx.mp hmessage
      exact hsingle packet _ _ (length_le_of_mem_chunks hcapacity (List.getElem_mem hindex))
    · exact hlayout draft hbefore

/-- What holds of a frame with one message, and is kept by one more message, holds of every frame of a layout. -/
theorem forall_mem_layout
    (hsingle : ∀ (packet : Packet) (position : Segmentation) (body : Bytes), body.length ≤ limits.bodyCapacity →
      holds (.single packet.messageType (.ofPacket packet position body)))
    (hadd : ∀ (draft : FrameDraft) (packet : Packet), holds draft →
      draft.admits limits packet.messageType (.ofWhole packet) = true → holds (draft.add (.ofWhole packet)))
    (hcapacity : 0 < limits.bodyCapacity) (packets : List Packet) : ∀ draft ∈ layout limits packets, holds draft := by
  have hclosed : ∀ draft ∈ (packets.foldl (Layout.place limits) {}).close.closed, holds draft := by
    induction packets using List.reverseRecOn with
    | nil => exact List.forall_mem_nil _
    | append_singleton packets packet ih =>
      rw [List.foldl_append, List.foldl_cons, List.foldl_nil]
      exact Layout.forall_place hsingle hadd hcapacity ih packet
  intro draft hdraft
  exact hclosed draft (List.mem_reverse.mp hdraft)

end Everywhere

/-! ### Lengths -/

/-- A frame knows the length of its bytes. -/
def FrameDraft.Counted (draft : FrameDraft) : Prop :=
  draft.size = FrameHeader.size + (draft.messages.map Message.size).sum

theorem FrameDraft.counted_single (kind : MessageType) (message : Message) : (FrameDraft.single kind message).Counted :=
  rfl

theorem FrameDraft.Counted.add {draft : FrameDraft} (h : draft.Counted) (message : Message) :
    (draft.add message).Counted := by
  simp only [FrameDraft.Counted, FrameDraft.add, FrameDraft.messages, List.reverse_cons, List.map_append,
    List.map_singleton, List.sum_append, List.sum_singleton] at h ⊢
  omega

/-- A frame knows its length, and it is no longer than the limits allow. -/
structure FrameDraft.Measured (limits : FrameLimits) (draft : FrameDraft) : Prop where
  counted : draft.Counted
  le_max : draft.size ≤ limits.max

theorem FrameLimits.Usable.headers_add_capacity_le {limits : FrameLimits} (h : limits.Usable) :
    FrameHeader.size + MessageHeader.size + limits.bodyCapacity ≤ limits.max := by
  have hroom := h.2
  have hcapacity : limits.bodyCapacity ≤ limits.max - FrameHeader.size - MessageHeader.size := min_le_left _ _
  omega

theorem measured_of_mem_layout {limits : FrameLimits} (husable : limits.Usable) (packets : List Packet) :
    ∀ draft ∈ layout limits packets, draft.Measured limits := by
  refine forall_mem_layout ?_ ?_ husable.capacity_pos packets
  · intro packet position body hbody
    have hroom := husable.headers_add_capacity_le
    refine ⟨FrameDraft.counted_single _ _, ?_⟩
    simp only [FrameDraft.single, Message.size, Message.ofPacket]
    omega
  · intro draft packet hdraft hadmits
    rw [FrameDraft.admits, Bool.and_eq_true, decide_eq_true_eq] at hadmits
    exact ⟨hdraft.counted.add _, hadmits.2⟩

theorem Message.length_flatMap_write (messages : List Message) :
    (messages.flatMap Message.write).length = (messages.map Message.size).sum := by
  rw [List.length_flatMap]
  simp only [Message.write_length]

/-- A frame is as long as its messages need, but not shorter than the least size. -/
theorem Encoder.length_writeFrame (encoder : Encoder) (limits : FrameLimits) (index : Nat) {draft : FrameDraft}
    (h : draft.Counted) : (encoder.writeFrame limits index draft).length = max draft.size limits.min := by
  rw [FrameDraft.Counted] at h
  rw [writeFrame, List.length_append, List.length_append, FrameHeader.write_length, Message.length_flatMap_write,
    List.length_replicate]
  omega

/-! ### Which messages stand in which frame -/

/-- The position of a message's body in its payload. -/
def Message.position (message : Message) : Segmentation := message.header.flags.segmentation

/-- A message that carries a part of a packet. -/
structure Message.PartOf (message : Message) (packet : Packet) : Prop where
  timestamp : message.header.timestamp = packet.timestamp
  interfaceId : message.header.interfaceId = packet.interfaceId
  payloadType : message.header.payloadType = packet.payload.rawType
  /-- All flags but the position are those of the packet. -/
  flags : message.header.flags = packet.flags.withSegmentation message.position
  /-- The length that is announced is that of the body. -/
  announced : message.header.payloadLength.toNat = message.body.length

/-- A message that carries a whole packet. -/
structure Message.WholeOf (message : Message) (packet : Packet) : Prop extends message.PartOf packet where
  position : message.position = .unsegmented
  body : message.body = packet.payload.toBytes

/-- The messages of a packet that is too long for a frame. -/
structure Packet.CutInto (limits : FrameLimits) (packet : Packet) (parts : List Message) : Prop where
  exceeds : limits.bodyCapacity < packet.payload.toBytes.length
  count : parts.length = packet.payload.toBytes.length ⌈/⌉ limits.bodyCapacity
  partOf : ∀ part ∈ parts, part.PartOf packet
  positions : parts.map Message.position = .first :: (List.replicate (parts.length - 2) .intermediary ++ [.last])
  /-- All but the last hold as much as there is room for. -/
  full : ∀ part ∈ parts.dropLast, part.body.length = limits.bodyCapacity
  joined : parts.flatMap Message.body = packet.payload.toBytes

/-- What a frame holds. -/
structure FrameContent where
  /-- The kind of all messages. -/
  kind : MessageType
  messages : List Message
deriving DecidableEq, Inhabited, Repr

/-- A frame that holds some packets in a row, each as one whole message. -/
structure FrameContent.SharedBy (limits : FrameLimits) (content : FrameContent) (members : List Packet) : Prop where
  nonempty : members ≠ []
  kind : ∀ packet ∈ members, packet.messageType = content.kind
  fits : ∀ packet ∈ members, packet.payload.toBytes.length ≤ limits.bodyCapacity
  messages : List.Forall₂ Message.WholeOf content.messages members

/-- The frames of a list of packets, in order: packets that fit share frames, a longer packet has a row of frames with
one message each. -/
inductive Packs (limits : FrameLimits) : List Packet → List FrameContent → Prop
  | nil : Packs limits [] []
  | shared {content : FrameContent} {members packets : List Packet} {contents : List FrameContent}
      (hshared : content.SharedBy limits members) (hrest : Packs limits packets contents) :
      Packs limits (members ++ packets) (content :: contents)
  | cut {packet : Packet} {parts : List Message} {packets : List Packet} {contents : List FrameContent}
      (hcut : packet.CutInto limits parts) (hrest : Packs limits packets contents) :
      Packs limits (packet :: packets) (parts.map (fun part => ⟨packet.messageType, [part]⟩) ++ contents)

theorem Message.partOf_ofPacket (packet : Packet) (position : Segmentation) {body : Bytes}
    (hlength : body.length ≤ 65535) : (Message.ofPacket packet position body).PartOf packet where
  timestamp := rfl
  interfaceId := rfl
  payloadType := rfl
  flags := by
    rw [Message.position, Decoder.segmentation_ofPacket]
    rfl
  announced := by
    simp only [Message.ofPacket]
    rw [UInt16.toNat_ofNat', Nat.mod_eq_of_lt (by omega)]

theorem Message.wholeOf_ofWhole {limits : FrameLimits} {packet : Packet}
    (hfits : packet.payload.toBytes.length ≤ limits.bodyCapacity) : (Message.ofWhole packet).WholeOf packet where
  toPartOf := partOf_ofPacket packet .unsegmented (hfits.trans limits.capacity_le)
  position := Decoder.segmentation_ofPacket packet _ .unsegmented
  body := rfl

theorem FrameLimits.fits_of_cuts {limits : FrameLimits} {packet : Packet} (h : limits.cuts packet = false) :
    packet.payload.toBytes.length ≤ limits.bodyCapacity :=
  Nat.le_of_not_lt (of_decide_eq_false h)

/-- What a frame of a layout holds. -/
def FrameDraft.content (draft : FrameDraft) : FrameContent := ⟨draft.messageType, draft.messages⟩

theorem FrameDraft.Shares.sharedBy {limits : FrameLimits} {draft : FrameDraft} {members : List Packet}
    (h : draft.Shares limits members) : draft.content.SharedBy limits members where
  nonempty := h.nonempty
  kind := h.kind
  fits packet hpacket := limits.fits_of_cuts (h.fits packet hpacket)
  messages := by
    rw [content, h.messages, List.forall₂_map_left_iff, List.forall₂_same]
    exact fun packet hpacket => Message.wholeOf_ofWhole (limits.fits_of_cuts (h.fits packet hpacket))

/-! ### The parts of a packet -/

theorem positions_laterSegments (packet : Packet) {parts : List Bytes} (hparts : parts ≠ []) :
    (laterSegments packet parts).map Message.position
      = List.replicate (parts.length - 1) .intermediary ++ [.last] := by
  induction parts with
  | nil => exact absurd rfl hparts
  | cons part parts ih =>
    cases parts with
    | nil => rw [laterSegments, List.map_singleton, Message.position, Decoder.segmentation_ofPacket]; rfl
    | cons next parts =>
      rw [laterSegments, List.map_cons, ih (List.cons_ne_nil _ _), Message.position, Decoder.segmentation_ofPacket]
      rfl

theorem map_body_segments (capacity : Nat) (packet : Packet) (body : Bytes) :
    (segments capacity packet body).map Message.body = chunks capacity body := by
  apply List.ext_getElem?
  intro index
  rw [List.getElem?_map, segments_getElem?, Option.map_map]
  exact Option.map_id'

theorem positions_segments {capacity : Nat} (packet : Packet) {body : Bytes} (hcapacity : 0 < capacity)
    (hlong : capacity < body.length) :
    (segments capacity packet body).map Message.position
      = .first :: (List.replicate ((chunks capacity body).length - 2) .intermediary ++ [.last]) := by
  have htwo := two_le_length_chunks hcapacity hlong
  cases hchunks : chunks capacity body with
  | nil =>
    rw [hchunks] at htwo
    cases htwo
  | cons part parts =>
    have hparts : parts ≠ [] := by
      rintro rfl
      rw [hchunks, List.length_singleton] at htwo
      omega
    rw [segments_eq hchunks, List.map_cons, positions_laterSegments packet hparts, Message.position,
      Decoder.segmentation_ofPacket]
    rfl

theorem Packet.cutInto_segments {limits : FrameLimits} {packet : Packet} (husable : limits.Usable)
    (hcut : limits.cuts packet = true) :
    packet.CutInto limits (segments limits.bodyCapacity packet packet.payload.toBytes) := by
  have hcapacity := husable.capacity_pos
  have hlong : limits.bodyCapacity < packet.payload.toBytes.length := of_decide_eq_true hcut
  have hbodies := map_body_segments limits.bodyCapacity packet packet.payload.toBytes
  refine ⟨hlong, ?_, ?_, ?_, ?_, ?_⟩
  · rw [segments_length, length_chunks hcapacity]
  · intro part hpart
    obtain ⟨index, hindex, rfl⟩ := List.mem_mapIdx.mp hpart
    have hlength := length_le_of_mem_chunks hcapacity (List.getElem_mem hindex)
    exact Message.partOf_ofPacket packet _ (hlength.trans limits.capacity_le)
  · rw [positions_segments packet hcapacity hlong, segments_length]
  · intro part hpart
    refine length_of_mem_dropLast_chunks hcapacity packet.payload.toBytes ?_
    rw [← hbodies, ← List.map_dropLast]
    exact List.mem_map_of_mem hpart
  · rw [List.flatMap_def, hbodies, flatten_chunks]

/-- The frames of a layout hold the messages of its packets. -/
theorem LaidOut.packs {limits : FrameLimits} (husable : limits.Usable) {packets : List Packet}
    {drafts : List FrameDraft} (h : LaidOut limits packets drafts) :
    Packs limits packets (drafts.map FrameDraft.content) := by
  induction h with
  | nil => exact .nil
  | shared hshares _ ih => exact .shared hshares.sharedBy ih
  | @cut packet packets drafts hcut _ ih =>
    have hrow : (cutDrafts limits packet).map FrameDraft.content
        = (segments limits.bodyCapacity packet packet.payload.toBytes).map
            fun part => ⟨packet.messageType, [part]⟩ := by
      rw [cutDrafts, List.map_map]
      rfl
    rw [List.map_append, hrow]
    exact .cut (Packet.cutInto_segments husable hcut) ih

/-! ### Frames as they are read -/

/-- A message that carries a part of a packet with a valid payload is told apart from padding. -/
theorem Message.PartOf.wellFormed {message : Message} {packet : Packet} (h : message.PartOf packet)
    (hvalid : packet.payload.isValid = true) : message.WellFormed where
  length := h.announced.symm
  type := by
    rw [h.payloadType]
    exact Payload.rawType_ne_zero hvalid

/-- Every message of a frame carries a part of a packet. -/
theorem Packs.partOf {limits : FrameLimits} {packets : List Packet} {contents : List FrameContent}
    (h : Packs limits packets contents) :
    ∀ content ∈ contents, ∀ message ∈ content.messages, ∃ packet ∈ packets, message.PartOf packet := by
  induction h with
  | nil => exact List.forall_mem_nil _
  | @shared content members packets contents hshared _ ih =>
    refine List.forall_mem_cons.mpr ⟨fun message hmessage => ?_, fun other hother message hmessage => ?_⟩
    · obtain ⟨index, hindex, rfl⟩ := List.mem_iff_getElem.mp hmessage
      have hmember : index < members.length := hshared.messages.length_eq ▸ hindex
      exact ⟨members[index], List.mem_append_left _ (List.getElem_mem _),
        (hshared.messages.get hindex hmember).toPartOf⟩
    · obtain ⟨packet, hpacket, hpart⟩ := ih other hother message hmessage
      exact ⟨packet, List.mem_append_right _ hpacket, hpart⟩
  | @cut packet parts packets contents hcut _ ih =>
    intro content hcontent message hmessage
    rcases List.mem_append.mp hcontent with hrow | hlater
    · obtain ⟨part, hpart, rfl⟩ := List.mem_map.mp hrow
      rw [List.mem_singleton.mp hmessage]
      exact ⟨packet, List.mem_cons_self, hcut.partOf part hpart⟩
    · obtain ⟨other, hother, hpart⟩ := ih content hlater message hmessage
      exact ⟨other, List.mem_cons_of_mem _ hother, hpart⟩

namespace Encoder

/-- The frame that is `index` frames ahead, as its reader finds it. -/
structure Sends (encoder : Encoder) (limits : FrameLimits) (index : Nat) (content : FrameContent) (frame : Bytes) :
    Prop where
  min_le : limits.min ≤ frame.length
  le_max : frame.length ≤ limits.max
  /-- A header of the encoder under the next number but `index`, then the messages, then zero bytes only. -/
  reads : ∃ header padding,
    FrameHeader.read frame
        = some (header, content.messages.flatMap Message.write ++ List.replicate padding 0)
      ∧ header.version = 1 ∧ header.deviceId = encoder.deviceId ∧ header.streamId = encoder.streamId
      ∧ header.sequence.toNat = (encoder.sequence.toNat + index) % 65536
      ∧ header.messageType.toRaw = content.kind.toRaw
      ∧ cut (content.messages.flatMap Message.write ++ List.replicate padding 0) = content.messages.map .whole

theorem toNat_sequence_frameHeader (encoder : Encoder) (kind : MessageType) (index : Nat) :
    (encoder.frameHeader kind index).sequence.toNat = (encoder.sequence.toNat + index) % 65536 := by
  simp only [frameHeader]
  rw [UInt16.toNat_add, UInt16.toNat_ofNat', Nat.add_mod_mod]

theorem sends_writeFrame (encoder : Encoder) {limits : FrameLimits} (husable : limits.Usable) (index : Nat)
    {draft : FrameDraft} (hmeasured : draft.Measured limits)
    (hmessages : ∀ message ∈ draft.messages, message.WellFormed) :
    encoder.Sends limits index draft.content (encoder.writeFrame limits index draft) where
  min_le := by
    rw [length_writeFrame encoder limits index hmeasured.counted]
    exact le_max_right _ _
  le_max := by
    rw [length_writeFrame encoder limits index hmeasured.counted]
    exact max_le hmeasured.le_max husable.1
  reads := by
    have hread := FrameHeader.read_write (encoder.frameHeader draft.messageType index)
      (draft.messages.flatMap Message.write ++ List.replicate (limits.min - draft.size) 0)
    rw [← List.append_assoc] at hread
    exact ⟨_, limits.min - draft.size, hread, rfl, rfl, rfl, encoder.toNat_sequence_frameHeader _ _,
      MessageType.toRaw_ofRaw _, cut_write _ _ hmessages⟩

/-- The frames of a call that succeeds.  Every frame keeps within the limits and carries the version, the encoder's
device and stream, and the next number; the numbers go on after the last frame.  A packet that fits a frame stands in
one frame as one whole message.  A longer packet has a row of frames with one message each, as few as hold it: a first
part, parts in the middle and a last part, all but the last of them full, which make up its body.  No length that is
announced was cut. -/
theorem encode_packs {encoder : Encoder} {limits : FrameLimits} {packets : List Packet} {frames : List Bytes}
    (h : (encoder.encode limits packets).2 = .ok frames) :
    ∃ contents, Packs limits packets contents ∧ frames.length = contents.length
      ∧ (∀ index content frame, contents[index]? = some content → frames[index]? = some frame →
        encoder.Sends limits index content frame)
      ∧ (∀ content ∈ contents, ∀ message ∈ content.messages,
        message.header.payloadLength.toNat = message.body.length)
      ∧ (encoder.encode limits packets).1
        = { encoder with sequence := UInt16.ofNat (encoder.sequence.toNat + frames.length) } := by
  obtain ⟨husable, haccepts, rfl, hstarted⟩ := encode_ok h
  have hpacks := (layout_laidOut limits packets).packs husable
  have hlength : (encoder.writeFrames limits (layout limits packets)).length = (layout limits packets).length :=
    List.length_mapIdx
  have hpart := hpacks.partOf
  refine ⟨_, hpacks, by rw [hlength, List.length_map], ?_, ?_, ?_⟩
  · intro index content frame hcontent hframe
    rw [List.getElem?_map, Option.map_eq_some_iff] at hcontent
    obtain ⟨draft, hdraft, rfl⟩ := hcontent
    rw [writeFrames, List.getElem?_mapIdx, hdraft, Option.map_some, Option.some.injEq] at hframe
    subst hframe
    have hmem := List.mem_of_getElem? hdraft
    refine encoder.sends_writeFrame husable index (measured_of_mem_layout husable packets draft hmem) ?_
    intro message hmessage
    obtain ⟨packet, hpacket, hcarried⟩ := hpart draft.content (List.mem_map_of_mem hmem) message hmessage
    exact hcarried.wellFormed (isValid_of_accepts (haccepts packet hpacket))
  · intro content hcontent message hmessage
    obtain ⟨packet, -, hcarried⟩ := hpart content hcontent message hmessage
    exact hcarried.announced
  · rw [encode_fst, hstarted, hlength, advance, UInt16.ofNat_add, UInt16.ofNat_toNat]

end Encoder

/-- Two bus frames, a block of 60 samples, and a bus frame. -/
def mixedTraffic : List Packet :=
  [.ofPayload 1 10 (.can (.ofIdentifier 0x123 [1, 2, 3])), .ofPayload 1 11 (.can (.ofIdentifier 0x124 [4])),
   .ofPayload 2 12 (.analog { samples := List.replicate 60 7 }), .ofPayload 1 13 (.can (.ofIdentifier 0x125 [5, 6]))]

namespace Encoder

theorem encode_mixedTraffic :
    ∃ frames, (wrappingEncoder.encode ⟨64, 84⟩ mixedTraffic).2 = .ok frames ∧ frames.length = 5 := by
  refine ⟨wrappingEncoder.writeFrames ⟨64, 84⟩ (layout ⟨64, 84⟩ mixedTraffic), ?_, ?_⟩
  · rw [encode_of_usable mixedTraffic (by decide)]
    rfl
  · rw [writeFrames, List.length_mapIdx]
    decide +kernel

/-- The first two share a frame, the block is cut in three parts, and the numbers wrap after the first frame. -/
theorem encode_packs_mixedTraffic :
    ∃ frames contents, (wrappingEncoder.encode ⟨64, 84⟩ mixedTraffic).2 = .ok frames
      ∧ Packs ⟨64, 84⟩ mixedTraffic contents ∧ frames.length = 5 ∧ contents.length = 5
      ∧ (∀ index content frame, contents[index]? = some content → frames[index]? = some frame →
        wrappingEncoder.Sends ⟨64, 84⟩ index content frame)
      ∧ (wrappingEncoder.encode ⟨64, 84⟩ mixedTraffic).1 = { wrappingEncoder with sequence := 4 } := by
  obtain ⟨frames, hencode, hcount⟩ := encode_mixedTraffic
  obtain ⟨contents, hpacks, hlength, hsends, -, hafter⟩ := encode_packs hencode
  refine ⟨frames, contents, hencode, hpacks, hcount, hlength ▸ hcount, hsends, ?_⟩
  rw [hafter, hcount]
  rfl

end Encoder

end CaptureProtocol
