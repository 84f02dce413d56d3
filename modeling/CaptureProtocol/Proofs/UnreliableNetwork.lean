import CaptureProtocol.Proofs.RoundTrip
import CaptureProtocol.Proofs.Sending
import Mathlib

/-!
# An unreliable network

Frames of several senders are lost, repeated, delayed and mixed before they reach a decoder, and what is pending
there may go stale at any time.  Still the decoder gives only packets that were sent: it never joins parts of two
packets, and never gives a packet with a part missing.

* `Event`, `Decoder.observe` — what happens to a decoder;
* `Encoder.Brings` — the frames that bring a packet; `Genuine`: a packet that was sent and whose frames all arrived;
* `Gathers` — the invariant: what is pending are the first parts of one packet, and it waits for the next of them;
* `Gathers.next_part`, `Gathers.append`, `Gathers.complete` — how a pending payload grows;
* `Decoder.Tracks` — all of it; `observe_faithful`: one event; `observeAll_genuine`: every history.
-/

namespace CaptureProtocol

/-- What happens to a decoder: a frame arrives, or it forgets what is stale. -/
inductive Event where
  | arrives (arrival : Arrival)
  | purges (now : Nat)
deriving DecidableEq, Inhabited, Repr

/-- The frame that arrives in an event. -/
def Event.frame? : Event → Option Bytes
  | arrives arrival => some arrival.bytes
  | purges _ => none

namespace Decoder

def observe (decoder : Decoder) : Event → Decoder × List Packet
  | .arrives arrival => decoder.decode arrival.time arrival.bytes
  | .purges now => ((decoder.expire now).1, [])

/-- A history of events. -/
def observeAll (decoder : Decoder) (events : List Event) : Decoder × List Packet :=
  Run.collect observe decoder events

end Decoder

/-! ### Frames with parts -/

/-- A frame with a part of a packet holds nothing else. -/
theorem eq_single_of_cutDrafts {limits : FrameLimits} {packet : Packet} {index : Nat} {draft : FrameDraft}
    (h : (cutDrafts limits packet)[index]? = some draft) :
    ∃ message, draft = .single packet.messageType message := by
  rw [cutDrafts_getElem?, Option.map_eq_some_iff] at h
  obtain ⟨part, -, rfl⟩ := h
  exact ⟨_, rfl⟩

/-- The message of a frame with a part of a packet. -/
theorem part_of_cutDrafts {limits : FrameLimits} {packet : Packet} {index : Nat} {kind : MessageType}
    {message : Message} (h : (cutDrafts limits packet)[index]? = some (.single kind message)) :
    (chunks limits.bodyCapacity packet.payload.toBytes)[index]? = some message.body
      ∧ message = .ofPacket packet (segmentPosition (cutDrafts limits packet).length index) message.body := by
  rw [cutDrafts_getElem?, Option.map_eq_some_iff] at h
  obtain ⟨part, hpart, hdraft⟩ := h
  rw [FrameDraft.single, FrameDraft.single, FrameDraft.mk.injEq] at hdraft
  have hmessage := List.head_eq_of_cons_eq hdraft.2.1
  rw [cutDrafts_length, ← hmessage]
  exact ⟨hpart, rfl⟩

theorem segmentation_of_cutDrafts {limits : FrameLimits} {packet : Packet} {index : Nat} {kind : MessageType}
    {message : Message} (h : (cutDrafts limits packet)[index]? = some (.single kind message)) :
    message.header.flags.segmentation = segmentPosition (cutDrafts limits packet).length index := by
  obtain ⟨-, hmessage⟩ := part_of_cutDrafts h
  rw [hmessage]
  exact MessageFlags.segmentation_withSegmentation ..

theorem segmentPosition_eq_first {count index : Nat} (h : segmentPosition count index = .first) : index = 0 := by
  rw [segmentPosition] at h
  split_ifs at h with hfirst
  exact hfirst

theorem segmentPosition_eq_intermediary {count index : Nat} (h : segmentPosition count index = .intermediary) :
    index + 1 ≠ count := by
  rw [segmentPosition] at h
  split_ifs at h with _ hlast
  exact hlast

theorem segmentPosition_eq_last {count index : Nat} (h : segmentPosition count index = .last) :
    index + 1 = count := by
  rw [segmentPosition] at h
  split_ifs at h with _ hlast
  exact hlast

namespace Encoder

theorem sequence_frameHeader_succ (encoder : Encoder) (kind : MessageType) (index : Nat) :
    (encoder.frameHeader kind (index + 1)).sequence = (encoder.frameHeader kind index).sequence + 1 := by
  simp [frameHeader, add_assoc]

/-- The frames of the first `count` parts of a packet, numbered from `first` on. -/
def partFrames (encoder : Encoder) (limits : FrameLimits) (packet : Packet) (first count : Nat) : List Bytes :=
  (encoder.advance first).writeFrames limits ((cutDrafts limits packet).take count)

theorem partFrames_succ (encoder : Encoder) {limits : FrameLimits} {packet : Packet} (first : Nat) {count : Nat}
    {draft : FrameDraft} (h : (cutDrafts limits packet)[count]? = some draft) :
    encoder.partFrames limits packet first (count + 1)
      = encoder.partFrames limits packet first count ++ [encoder.writeFrame limits (first + count) draft] := by
  obtain ⟨hlength, -⟩ := List.getElem?_eq_some_iff.mp h
  rw [partFrames, List.take_add_one, h, writeFrames_append, List.length_take_of_le (Nat.le_of_lt hlength),
    advance_advance]
  show _ ++ (encoder.advance (first + count)).writeFrames limits [draft] = _
  rw [writeFrames_cons, writeFrames_nil, writeFrame_advance]
  rfl

/-- The frames that bring a packet: one that it shares with others, or all those with its parts. -/
inductive Brings (encoder : Encoder) (packet : Packet) : List Bytes → Prop
  | shared {limits : FrameLimits} {draft : FrameDraft} {members : List Packet} {index : Nat}
      (hshares : draft.Shares limits members) (hpacket : packet ∈ members) :
      Brings encoder packet [encoder.writeFrame limits index draft]
  | cut {limits : FrameLimits} {first : Nat} (hcut : limits.cuts packet = true) :
      Brings encoder packet ((encoder.advance first).writeFrames limits (cutDrafts limits packet))

end Encoder

/-- A packet that one of the senders was given, and whose frames have all arrived, in order. -/
def Genuine (senders : List Sender) (arrived : List Bytes) (packet : Packet) : Prop :=
  ∃ sender ∈ senders, ∃ original, sender.Passed original ∧ packet = sender.encoder.delivered original
    ∧ ∃ frames, sender.encoder.Brings original frames ∧ frames.Sublist arrived

theorem Genuine.mono {senders : List Sender} {arrived more : List Bytes} {packet : Packet}
    (h : Genuine senders arrived packet) (hmore : arrived.Sublist more) : Genuine senders more packet := by
  obtain ⟨sender, hsender, original, hpassed, hpacket, frames, hbrings, hframes⟩ := h
  exact ⟨sender, hsender, original, hpassed, hpacket, frames, hbrings, hframes.trans hmore⟩

/-! ### What is pending -/

/-- A pending payload holds the first `count` parts of a packet that a sender cuts, and waits for the next one. -/
structure Gathers (sender : Sender) (limits : FrameLimits) (packet : Packet) (first count : Nat)
    (arrived : List Bytes) (entry : StreamKey × PendingPayload) : Prop where
  cuts : sender.Cuts limits packet first
  unfinished : count < (cutDrafts limits packet).length
  key : entry.1 = sender.encoder.addressOf packet
  frame : entry.2.frame = sender.encoder.frameHeader packet.messageType first
  header : ∃ position part, entry.2.header = (Message.ofPacket packet position part).header
  latest : entry.2.latest.reverse = (chunks limits.bodyCapacity packet.payload.toBytes).take count
  next : entry.2.next = (sender.encoder.frameHeader packet.messageType (first + count)).sequence
  arrived : (sender.encoder.partFrames limits packet first count).Sublist arrived

namespace Gathers

variable {sender : Sender} {limits : FrameLimits} {packet : Packet} {first count : Nat} {arrived : List Bytes}
  {key : StreamKey} {pending : PendingPayload}

theorem mono {entry : StreamKey × PendingPayload} {more : List Bytes}
    (h : Gathers sender limits packet first count arrived entry) (hmore : arrived.Sublist more) :
    Gathers sender limits packet first count more entry :=
  { h with arrived := h.arrived.trans hmore }

/-- The first part of a packet is pending after it arrived. -/
theorem start (hcuts : sender.Cuts limits packet first) {message : Message}
    (hdraft : (cutDrafts limits packet)[0]? = some (.single packet.messageType message)) (now : Nat)
    (arrived : List Bytes) :
    Gathers sender limits packet first 1
      (arrived ++ [sender.encoder.writeFrame limits first (.single packet.messageType message)])
      (Decoder.keyOf (sender.encoder.frameHeader packet.messageType first) message.header,
        .start now (sender.encoder.frameHeader packet.messageType first) message) where
  cuts := hcuts
  unfinished := by
    rw [cutDrafts_length]
    exact two_le_length_chunks hcuts.usable.capacity_pos (of_decide_eq_true hcuts.cut)
  key := by
    rw [(part_of_cutDrafts hdraft).2]
    rfl
  frame := rfl
  header := ⟨_, _, congrArg Message.header (part_of_cutDrafts hdraft).2⟩
  latest := by
    rw [List.take_add_one, (part_of_cutDrafts hdraft).1]
    rfl
  next := (Encoder.sequence_frameHeader_succ ..).symm
  arrived := by
    rw [Encoder.partFrames_succ _ _ hdraft]
    exact List.sublist_append_right _ _

/-- A frame of the sender with the number that a pending payload waits for holds the next part: the sender has used
that number only once. -/
theorem next_part (h : Gathers sender limits packet first count arrived (key, pending))
    (hused : sender.numbersUsed ≤ 65536) {index : Nat} {otherLimits : FrameLimits} {draft : FrameDraft}
    (hentry : sender.ledger[index]? = some (some (otherLimits, draft))) {kind : MessageType}
    (hnext : pending.next = (sender.encoder.frameHeader kind index).sequence) :
    index = first + count ∧ otherLimits = limits ∧ (cutDrafts limits packet)[count]? = some draft := by
  have hpart := List.getElem?_eq_getElem h.unfinished
  have hexpected := h.cuts.parts count _ hpart
  have hindex : index = first + count := by
    refine Sender.number_injective hused hentry hexpected ?_
    exact hnext.symm.trans h.next
  rw [hindex, hexpected] at hentry
  cases hentry
  exact ⟨hindex, rfl, hpart⟩

section Next

variable (h : Gathers sender limits packet first count arrived (key, pending)) {kind : MessageType}
  {message : Message} (hdraft : (cutDrafts limits packet)[count]? = some (.single kind message))

include h hdraft

/-- The bodies grow by the next part. -/
theorem reverse_append :
    (pending.append message.body).latest.reverse
      = (chunks limits.bodyCapacity packet.payload.toBytes).take (count + 1) := by
  have hlatest := h.latest
  dsimp only at hlatest
  rw [List.take_add_one, (part_of_cutDrafts hdraft).1, ← hlatest, PendingPayload.append]
  exact List.reverse_cons

/-- A part in the middle is kept, and the payload waits for the one after it. -/
theorem append (hposition : message.header.flags.segmentation = .intermediary) :
    Gathers sender limits packet first (count + 1)
      (arrived ++ [sender.encoder.writeFrame limits (first + count) (.single kind message)])
      (key, pending.append message.body) where
  cuts := h.cuts
  unfinished := by
    rw [segmentation_of_cutDrafts hdraft] at hposition
    exact Nat.lt_of_le_of_ne h.unfinished (segmentPosition_eq_intermediary hposition)
  key := h.key
  frame := h.frame
  header := h.header
  latest := h.reverse_append hdraft
  next := by
    rw [← Nat.add_assoc, Encoder.sequence_frameHeader_succ, ← h.next]
    rfl
  arrived := by
    rw [Encoder.partFrames_succ _ _ hdraft]
    exact h.arrived.append (List.Sublist.refl _)

/-- With the last part, the packet that was cut is complete. -/
theorem complete (hposition : message.header.flags.segmentation = .last) :
    (pending.append message.body).packet = sender.encoder.delivered packet
      ∧ ((sender.encoder.advance first).writeFrames limits (cutDrafts limits packet)).Sublist
          (arrived ++ [sender.encoder.writeFrame limits (first + count) (.single kind message)]) := by
  rw [segmentation_of_cutDrafts hdraft] at hposition
  have hlast := segmentPosition_eq_last hposition
  constructor
  · have hbody : (pending.append message.body).body = packet.payload.toBytes := by
      rw [PendingPayload.body, h.reverse_append hdraft, hlast, cutDrafts_length, List.take_length, flatten_chunks]
    obtain ⟨position, part, hheader⟩ := h.header
    have hframe := h.frame
    dsimp only at hheader hframe
    rw [PendingPayload.packet, hbody]
    show packetOf pending.frame pending.header (.parse pending.frame.messageType pending.header.payloadType _) = _
    rw [hframe, hheader]
    exact packetOf_ofPacket sender.encoder h.cuts.sendable first position part
  · have hframes := sender.encoder.partFrames_succ first hdraft
    rw [hlast, Encoder.partFrames, List.take_length] at hframes
    rw [hframes]
    exact h.arrived.append (List.Sublist.refl _)

end Next

end Gathers

/-! ### Histories -/

/-- Senders with addresses of their own that use no frame number twice and label their packets rightly. -/
structure Network (senders : List Sender) : Prop where
  distinct : (senders.map fun sender => (sender.encoder.deviceId, sender.encoder.streamId)).Nodup
  used : ∀ sender ∈ senders, sender.numbersUsed ≤ 65536
  kinds : ∀ sender ∈ senders, ∀ packet, sender.Passed packet → packet.payload.isValid = true →
    packet.payloadType.messageType? = some packet.messageType

namespace Decoder

/-- Everything that is pending belongs to packets of the senders. -/
def Tracks (senders : List Sender) (arrived : List Bytes) (decoder : Decoder) : Prop :=
  decoder.Every fun entry =>
    ∃ sender ∈ senders, ∃ limits packet first count, Gathers sender limits packet first count arrived entry

/-- A decoder that tracks the senders, with packets that they sent. -/
def Faithful (senders : List Sender) (arrived : List Bytes) (after : Decoder × List Packet) : Prop :=
  after.1.Tracks senders arrived ∧ ∀ packet ∈ after.2, Genuine senders arrived packet

variable {senders : List Sender} {arrived : List Bytes} {decoder : Decoder}

theorem Tracks.mono {more : List Bytes} (h : decoder.Tracks senders arrived) (hmore : arrived.Sublist more) :
    decoder.Tracks senders more := by
  intro entry hentry
  obtain ⟨sender, hsender, limits, packet, first, count, hgathers⟩ := h entry hentry
  exact ⟨sender, hsender, limits, packet, first, count, hgathers.mono hmore⟩

theorem Tracks.faithful (h : decoder.Tracks senders arrived) : Faithful senders arrived (decoder, []) :=
  ⟨h, List.forall_mem_nil _⟩

/-- The payload that is pending for a frame's address and waits for its number is the one that the frame goes on
with. -/
theorem Tracks.next_part (h : decoder.Tracks senders arrived) (hnetwork : Network senders)
    {sender : Sender} (hsender : sender ∈ senders) {limits : FrameLimits} {draft : FrameDraft} {index : Nat}
    (hentry : sender.ledger[index]? = some (some (limits, draft))) {kind : MessageType} {header : MessageHeader}
    {pending : PendingPayload}
    (hpending : decoder.pending? (keyOf (sender.encoder.frameHeader kind index) header) = some pending)
    (hnext : pending.next = (sender.encoder.frameHeader kind index).sequence) :
    ∃ packet first count,
      Gathers sender limits packet first count arrived (keyOf (sender.encoder.frameHeader kind index) header, pending)
        ∧ index = first + count ∧ (cutDrafts limits packet)[count]? = some draft := by
  obtain ⟨other, hother, otherLimits, packet, first, count, hgathers⟩ := Every.of_pending? h hpending
  have hkey := hgathers.key
  simp only [keyOf, Encoder.addressOf, Encoder.frameHeader, StreamKey.mk.injEq] at hkey
  -- the address leaves only one sender
  have hsame : other = sender :=
    List.inj_on_of_nodup_map hnetwork.distinct hother hsender (Prod.ext hkey.1.symm hkey.2.2.symm)
  subst hsame
  obtain ⟨hindex, hlimits, hdraft⟩ := hgathers.next_part (hnetwork.used other hother) hentry hnext
  subst hlimits
  exact ⟨packet, first, count, hgathers, hindex, hdraft⟩

/-- A part of a packet. -/
theorem accept_part (h : decoder.Tracks senders arrived) (hnetwork : Network senders) {sender : Sender}
    (hsender : sender ∈ senders) {limits : FrameLimits} {packet : Packet} {first position : Nat}
    (hcuts : sender.Cuts limits packet first) {message : Message}
    (hdraft : (cutDrafts limits packet)[position]? = some (.single packet.messageType message)) (now : Nat) :
    Faithful senders
      (arrived ++ [sender.encoder.writeFrame limits (first + position) (.single packet.messageType message)])
      (accept now (sender.encoder.frameHeader packet.messageType (first + position)) decoder (.whole message)) := by
  have hentry := hcuts.parts position _ hdraft
  have htracks := h.mono (List.sublist_append_left arrived
    [sender.encoder.writeFrame limits (first + position) (.single packet.messageType message)])
  obtain ⟨after, packets, haccept, houtcome⟩ := accept_outcome now
    (sender.encoder.frameHeader packet.messageType (first + position)) decoder (.whole message)
  rw [haccept]
  cases houtcome with
  | single hposition =>
    rw [segmentation_of_cutDrafts hdraft, segmentPosition] at hposition
    split_ifs at hposition
  | opened hposition =>
    rw [segmentation_of_cutDrafts hdraft] at hposition
    have hzero := segmentPosition_eq_first hposition
    subst hzero
    exact Tracks.faithful (Every.hold htracks
      ⟨sender, hsender, limits, packet, first, 1, .start hcuts hdraft now arrived⟩)
  | orphan => exact htracks.faithful
  | broken => exact Tracks.faithful (Every.forget htracks _)
  | appended hposition hpending hnext =>
    obtain ⟨other, otherFirst, count, hgathers, hindex, hother⟩ :=
      h.next_part hnetwork hsender hentry hpending hnext
    have hlonger := hgathers.append hother hposition
    rw [← hindex] at hlonger
    exact Tracks.faithful (Every.hold htracks
      ⟨sender, hsender, limits, other, otherFirst, count + 1, hlonger⟩)
  | completed hposition hpending hnext =>
    obtain ⟨other, otherFirst, count, hgathers, hindex, hother⟩ :=
      h.next_part hnetwork hsender hentry hpending hnext
    obtain ⟨hpacket, hframes⟩ := hgathers.complete hother hposition
    refine ⟨Every.forget htracks _, fun given hgiven => ?_⟩
    rw [List.mem_singleton.mp hgiven, hindex]
    exact ⟨sender, hsender, other, hgathers.cuts.passed, hpacket, _, .cut hgathers.cuts.cut, hframes⟩

/-- One event.  An arriving frame is one that a sender sent. -/
theorem observe_faithful (h : decoder.Tracks senders arrived) (hnetwork : Network senders) (event : Event)
    (hsent : ∀ frame ∈ event.frame?, ∃ sender ∈ senders, frame ∈ sender.sent) :
    Faithful senders (arrived ++ event.frame?.toList) (decoder.observe event) := by
  cases event with
  | purges now =>
    rw [show arrived ++ (Event.purges now).frame?.toList = arrived from List.append_nil arrived]
    exact Tracks.faithful (Every.expire h now)
  | arrives arrival =>
    obtain ⟨sender, hsender, hframe⟩ := hsent arrival.bytes rfl
    obtain ⟨index, limits, draft, hentry, hbytes⟩ := Sender.mem_sent hframe
    have hcarries : Carries (sender.encoder.writeFrame limits index draft) arrival :=
      ⟨0, by rw [← hbytes]; exact (List.append_nil _).symm⟩
    have hexpired : (decoder.expire arrival.time).1.Tracks senders arrived := Every.expire h arrival.time
    show Faithful senders (arrived ++ [arrival.bytes]) (decoder.decode arrival.time arrival.bytes)
    rcases Sender.entry_cases (hnetwork.kinds sender hsender) hentry with
      ⟨members, hmembers, hshares⟩ | ⟨packet, first, position, hcuts, rfl, hdraft⟩
    · rw [decode_shared decoder hcarries hshares fun packet hpacket => (hmembers packet hpacket).2, hbytes]
      refine ⟨hexpired.mono (List.sublist_append_left _ _), fun given hgiven => ?_⟩
      obtain ⟨packet, hpacket, rfl⟩ := List.mem_map.mp hgiven
      exact ⟨sender, hsender, packet, (hmembers packet hpacket).1, rfl, _, .shared hshares hpacket,
        List.sublist_append_right _ _⟩
    · obtain ⟨message, rfl⟩ := eq_single_of_cutDrafts hdraft
      have hdecode : decoder.decode arrival.time arrival.bytes
          = accept arrival.time (sender.encoder.frameHeader packet.messageType (first + position))
              (decoder.expire arrival.time).1 (.whole message) := by
        obtain ⟨hpart, hmessage⟩ := part_of_cutDrafts hdraft
        rw [hmessage] at hcarries ⊢
        refine decode_single decoder hcarries hcuts.sendable ?_
        exact (length_le_of_mem_chunks hcuts.usable.capacity_pos (List.mem_of_getElem? hpart)).trans
          limits.capacity_le
      rw [hdecode, hbytes]
      exact accept_part hexpired hnetwork hsender hcuts hdraft arrival.time

/-- Every history, from a decoder that tracks the senders.  The induction is on the events that are still to come. -/
theorem observeAll_faithful (hnetwork : Network senders) (events : List Event)
    (hsent : ∀ event ∈ events, ∀ frame ∈ event.frame?, ∃ sender ∈ senders, frame ∈ sender.sent)
    (h : decoder.Tracks senders arrived) :
    Faithful senders (arrived ++ events.filterMap Event.frame?) (decoder.observeAll events) := by
  induction events generalizing decoder arrived with
  | nil =>
    rw [List.filterMap_nil, List.append_nil]
    exact h.faithful
  | cons event events ih =>
    obtain ⟨htracks, hgenuine⟩ := observe_faithful h hnetwork event (hsent event List.mem_cons_self)
    obtain ⟨htracksAll, hgenuineAll⟩ := ih (fun later hlater => hsent later (List.mem_cons_of_mem _ hlater)) htracks
    have hframes : arrived ++ (event :: events).filterMap Event.frame?
        = arrived ++ event.frame?.toList ++ events.filterMap Event.frame? := by
      cases hframe : event.frame? <;> simp [hframe]
    rw [observeAll, Run.collect_cons, hframes]
    refine ⟨htracksAll, fun packet hpacket => ?_⟩
    rcases List.mem_append.mp hpacket with hnow | hlater
    · exact (hgenuine packet hnow).mono (List.sublist_append_left _ _)
    · exact hgenuineAll packet hlater

/-- No packet is made up.  Whatever is lost, repeated, delayed, mixed or forgotten on the way, a packet that a decoder
gives was sent by the sender with its address, and all frames of the packet have arrived. -/
theorem observeAll_genuine (hnetwork : Network senders) (timeout : Nat) {events : List Event}
    (hsent : ∀ event ∈ events, ∀ frame ∈ event.frame?, ∃ sender ∈ senders, frame ∈ sender.sent) :
    ∀ packet ∈ (observeAll { timeout } events).2, Genuine senders (events.filterMap Event.frame?) packet := by
  intro packet hpacket
  have hempty : Tracks senders [] { timeout } := every_empty timeout
  exact (observeAll_faithful hnetwork events hsent hempty).2 packet hpacket

end Decoder

/-- A sender whose numbers wrap, and whose second call fails after one frame was numbered. -/
def leftSender : Sender where
  encoder := wrappingEncoder
  calls := [⟨⟨30, 44⟩, busFrames⟩, ⟨{}, busFrames ++ [.ofPayload 1 30 (.undefined 77 [])]⟩, ⟨⟨0, 25⟩, busFrames⟩]

/-- A sender of another stream of the same device, with the same numbers. -/
def rightSender : Sender where
  encoder := { wrappingEncoder with streamId := 10 }
  calls := [⟨⟨30, 44⟩, busFrames⟩]

/-- Frame `index` of a sender arrives. -/
def arrivalOf (sender : Sender) (index time : Nat) : Event := .arrives ⟨time, sender.sent.getD index []⟩

/-- The parts of two packets, mixed: the left one is disturbed and starts again, the right one loses its first part
once to a purge and is then complete. -/
def mixedEvents : List Event :=
  [arrivalOf leftSender 1 0, arrivalOf rightSender 1 0, .purges 2000, arrivalOf rightSender 2 2001,
   arrivalOf leftSender 1 2002, arrivalOf leftSender 30 2003, arrivalOf leftSender 1 2004,
   arrivalOf rightSender 1 2005, arrivalOf leftSender 1 2006, arrivalOf leftSender 2 2007,
   arrivalOf rightSender 2 2008, arrivalOf leftSender 2 2009]

theorem network_mixed : Network [leftSender, rightSender] where
  distinct := by decide
  used := by decide +kernel
  kinds := by
    have hkinds : ∀ sender ∈ [leftSender, rightSender], ∀ call ∈ sender.calls, ∀ packet ∈ call.packets,
        packet.payload.isValid = true → packet.payloadType.messageType? = some packet.messageType := by decide
    rintro sender hsender packet ⟨call, hcall, hpacket⟩
    exact hkinds sender hsender call hcall packet hpacket

namespace Decoder

theorem observeAll_genuine_mixed :
    (observeAll { timeout := 2000 } mixedEvents).2.length = 2
      ∧ ∀ packet ∈ (observeAll { timeout := 2000 } mixedEvents).2,
          Genuine [leftSender, rightSender] (mixedEvents.filterMap Event.frame?) packet :=
  ⟨by decide +kernel, observeAll_genuine network_mixed 2000 (by decide +kernel)⟩

end Decoder

end CaptureProtocol
