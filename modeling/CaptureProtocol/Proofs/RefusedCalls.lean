import CaptureProtocol.Proofs.FrameDiscipline
import Mathlib

/-!
# Calls that are refused

A call may be refused in the middle of its work: frames are finished, one is open, and all of them are dropped.  What
stays is that their numbers are used up.  To say which numbers those are, the work is followed frame by frame, by a
packer that numbers a frame when it starts it.

* `Packer` — the work of a call: the encoder, the finished frames and the open one; `Packer.add` takes a packet,
  `Packer.run` takes packets until one is refused;
* `Packer.Agrees` — the work done so far against a layout; `Agrees.add` keeps it, `Agrees.run` follows it to the end;
* `Encoder.pack_eq_encode` — packing frame by frame is what a call does;
* `Encoder.Offends`, `Encoder.Objects` — what speaks against a packet, and the error that says so;
* `Encoder.encode_fails_iff`, `Encoder.encode_of_first_refused` — when a call fails, and what the first refused packet
  does;
* `Encoder.encode_refuses` — when a call is refused, with which error, and what it leaves behind.
-/

namespace CaptureProtocol

/-! ### Packing frame by frame -/

/-- The work of a call. -/
structure Packer where
  /-- The encoder, with the number of the next frame to be started. -/
  encoder : Encoder
  /-- The finished frames, latest first. -/
  finished : List Bytes := []
  /-- The open frame: the kind of its messages, and its bytes so far. -/
  opened : Option (MessageType × Bytes) := none
deriving DecidableEq, Inhabited, Repr

namespace Packer

/-- Fills a frame up to the least size. -/
def pad (limits : FrameLimits) (frame : Bytes) : Bytes := frame ++ List.replicate (limits.min - frame.length) 0

/-- A new frame with its first message, under the next number. -/
def firstBytes (packer : Packer) (kind : MessageType) (message : Message) : Bytes :=
  (packer.encoder.frameHeader kind 0).write ++ message.write

/-- Finishes the open frame. -/
def finish (limits : FrameLimits) (packer : Packer) : Packer :=
  { packer with
    finished := (packer.opened.map fun frame => pad limits frame.2).toList ++ packer.finished
    opened := none }

/-- Starts a frame that stays open. -/
def start (packer : Packer) (kind : MessageType) (message : Message) : Packer :=
  { packer with encoder := packer.encoder.advance 1, opened := some (kind, packer.firstBytes kind message) }

/-- Starts and finishes a frame with one message. -/
def addPart (limits : FrameLimits) (kind : MessageType) (packer : Packer) (message : Message) : Packer :=
  { packer with
    encoder := packer.encoder.advance 1
    finished := pad limits (packer.firstBytes kind message) :: packer.finished }

/-- Takes a packet. -/
def add (limits : FrameLimits) (packer : Packer) (packet : Packet) : Packer :=
  let body := packet.payload.toBytes
  if body.length ≤ limits.bodyCapacity then
    let message := Message.ofPacket packet .unsegmented body
    match packer.opened with
    | some (kind, bytes) =>
      if kind = packet.messageType ∧ bytes.length + message.size ≤ limits.max then
        { packer with opened := some (kind, bytes ++ message.write) }
      else (packer.finish limits).start packet.messageType message
    | none => packer.start packet.messageType message
  else (segments limits.bodyCapacity packet body).foldl (addPart limits packet.messageType) (packer.finish limits)

/-- Takes packets until one is refused.  Then the frames are dropped, and the encoder keeps its number. -/
def run (limits : FrameLimits) : Packer → List Packet → Encoder × Except LinkError (List Bytes)
  | packer, [] => (packer.encoder, .ok (packer.finish limits).finished.reverse)
  | packer, packet :: packets =>
    match packer.encoder.refusal? packet with
    | some error => (packer.encoder, .error error)
    | none => run limits (packer.add limits packet) packets

end Packer

/-- Packs a list of packets frame by frame. -/
def Encoder.pack (encoder : Encoder) (limits : FrameLimits) (packets : List Packet) :
    Encoder × Except LinkError (List Bytes) :=
  match limits.validate with
  | .error error => (encoder, .error error)
  | .ok () => Packer.run limits { encoder } packets

/-! ### The work of a packer and the layout -/

/-- The bytes of a frame without its padding. -/
def Encoder.bareFrame (encoder : Encoder) (index : Nat) (draft : FrameDraft) : Bytes :=
  (encoder.frameHeader draft.messageType index).write ++ draft.messages.flatMap Message.write

theorem FrameDraft.Counted.length_bareFrame {draft : FrameDraft} (h : draft.Counted) (encoder : Encoder)
    (index : Nat) : (encoder.bareFrame index draft).length = draft.size := by
  rw [Encoder.bareFrame, List.length_append, FrameHeader.write_length, Message.length_flatMap_write, h]

theorem FrameDraft.Counted.pad_bareFrame {draft : FrameDraft} (h : draft.Counted) (encoder : Encoder)
    (limits : FrameLimits) (index : Nat) :
    Packer.pad limits (encoder.bareFrame index draft) = encoder.writeFrame limits index draft := by
  rw [Packer.pad, h.length_bareFrame]
  rfl

theorem Encoder.writeFrames_concat (encoder : Encoder) (limits : FrameLimits) (drafts : List FrameDraft)
    (draft : FrameDraft) :
    encoder.writeFrames limits (drafts ++ [draft])
      = encoder.writeFrames limits drafts ++ [encoder.writeFrame limits drafts.length draft] := by
  rw [writeFrames_append, writeFrames_cons, writeFrames_nil, writeFrame_advance, Nat.add_zero]

namespace Packer

/-- The work done so far against a layout: as many frames are started, the finished ones are written, and the open one
is written up to its latest message. -/
structure Agrees (encoder : Encoder) (limits : FrameLimits) (packer : Packer) (layout : Layout) : Prop where
  numbered : packer.encoder = encoder.advance layout.close.closed.length
  finished : packer.finished = (encoder.writeFrames limits layout.closed.reverse).reverse
  opened : packer.opened = layout.current.map fun draft =>
    (draft.messageType, encoder.bareFrame layout.closed.length draft)
  counted : ∀ draft, layout.current = some draft → draft.Counted

namespace Agrees

variable {encoder : Encoder} {limits : FrameLimits} {packer : Packer} {layout : Layout} {packet : Packet}

theorem finish (h : packer.Agrees encoder limits layout) :
    (packer.finish limits).Agrees encoder limits layout.close where
  numbered := h.numbered
  finished := by
    rw [Packer.finish, h.opened, h.finished]
    cases hcurrent : layout.current with
    | none => simp only [Layout.close, hcurrent]; rfl
    | some draft =>
      simp only [Layout.close, hcurrent, Option.toList_some, List.singleton_append, List.reverse_cons,
        Encoder.writeFrames_concat, List.length_reverse, List.reverse_append, List.reverse_nil, List.nil_append,
        Option.map_some]
      rw [(h.counted draft hcurrent).pad_bareFrame]
  opened := rfl
  counted := nofun

theorem firstBytes (h : packer.Agrees encoder limits layout) (hcurrent : layout.current = none) (kind : MessageType)
    (message : Message) :
    packer.firstBytes kind message = encoder.bareFrame layout.closed.length (.single kind message) := by
  have hcount : layout.close.closed.length = layout.closed.length := by rw [Layout.close, hcurrent]; rfl
  rw [Packer.firstBytes, h.numbered, hcount, Encoder.frameHeader_advance, Nat.add_zero, Encoder.bareFrame]
  simp only [FrameDraft.single, FrameDraft.messages, List.reverse_singleton, List.flatMap_singleton]

theorem start (h : packer.Agrees encoder limits layout) (hcurrent : layout.current = none) (kind : MessageType)
    (message : Message) :
    (packer.start kind message).Agrees encoder limits { layout with current := some (.single kind message) } where
  numbered := by
    rw [Packer.start, h.numbered, Encoder.advance_advance, Layout.close, Layout.close, hcurrent]
    rfl
  finished := h.finished
  opened := by
    rw [Packer.start, h.firstBytes hcurrent]
    rfl
  counted := by
    rintro _ ⟨⟩
    exact FrameDraft.counted_single kind message

theorem addPart (h : packer.Agrees encoder limits layout) (hcurrent : layout.current = none) (kind : MessageType)
    (message : Message) :
    (packer.addPart limits kind message).Agrees encoder limits ⟨.single kind message :: layout.closed, none⟩ where
  numbered := by
    rw [Packer.addPart, h.numbered, Encoder.advance_advance, Layout.close, Layout.close, hcurrent]
    rfl
  finished := by
    rw [Packer.addPart, h.firstBytes hcurrent, (FrameDraft.counted_single kind message).pad_bareFrame, h.finished,
      List.reverse_cons, Encoder.writeFrames_concat, List.length_reverse, List.reverse_append]
    rfl
  opened := by
    rw [Packer.addPart, h.opened, hcurrent]
    rfl
  counted := nofun

/-- The parts of a packet are written one after the other, each into a frame of its own. -/
theorem addParts (h : packer.Agrees encoder limits layout) (hcurrent : layout.current = none) (kind : MessageType)
    (parts : List Message) :
    (parts.foldl (Packer.addPart limits kind) packer).Agrees encoder limits
      ⟨(parts.map (FrameDraft.single kind)).reverse ++ layout.closed, none⟩ := by
  induction parts generalizing packer layout with
  | nil =>
    have hsame : layout = ⟨layout.closed, none⟩ := by rw [← hcurrent]
    rw [hsame] at h
    exact h
  | cons part parts ih =>
    have hlater := ih (h.addPart hcurrent kind part) rfl
    rw [List.map_cons, List.reverse_cons, List.append_assoc]
    exact hlater

/-- A packet is taken as it is laid out. -/
theorem add (h : packer.Agrees encoder limits layout) :
    (packer.add limits packet).Agrees encoder limits (layout.place limits packet) := by
  by_cases hlength : packet.payload.toBytes.length ≤ limits.bodyCapacity
  · simp only [Packer.add, Layout.place, if_pos hlength]
    cases hcurrent : layout.current with
    | none =>
      have hopened : packer.opened = none := by rw [h.opened, hcurrent]; rfl
      rw [hopened]
      exact h.start hcurrent _ _
    | some draft =>
      have hcounted := h.counted draft hcurrent
      have hopened : packer.opened = some (draft.messageType, encoder.bareFrame layout.closed.length draft) := by
        rw [h.opened, hcurrent]
        rfl
      rw [hopened]
      -- both look at the kind and at the length, one at that of the bytes, the other at the one that was counted
      have hsame : (draft.messageType = packet.messageType
            ∧ (encoder.bareFrame layout.closed.length draft).length
              + (Message.ofPacket packet .unsegmented packet.payload.toBytes).size ≤ limits.max)
          ↔ draft.admits limits packet.messageType (.ofPacket packet .unsegmented packet.payload.toBytes) = true := by
        rw [hcounted.length_bareFrame, FrameDraft.admits, Bool.and_eq_true, decide_eq_true_eq, beq_iff_eq]
      by_cases hadmits : draft.admits limits packet.messageType
          (.ofPacket packet .unsegmented packet.payload.toBytes) = true
      · simp only [if_pos hadmits, if_pos (hsame.mpr hadmits)]
        refine ⟨?_, h.finished, ?_, ?_⟩
        · rw [h.numbered, Layout.close, Layout.close, hcurrent]
          rfl
        · simp only [Option.map_some, FrameDraft.add, Encoder.bareFrame, FrameDraft.messages, List.reverse_cons,
            List.flatMap_append, List.flatMap_singleton, List.append_assoc]
        · rintro _ ⟨⟩
          exact hcounted.add _
      · simp only [if_neg hadmits, if_neg (mt hsame.mp hadmits)]
        exact h.finish.start rfl _ _
  · simp only [Packer.add, Layout.place, if_neg hlength]
    exact h.finish.addParts rfl _ _

theorem refusal? (h : packer.Agrees encoder limits layout) (packet : Packet) :
    packer.encoder.refusal? packet = encoder.refusal? packet := by
  rw [h.numbered]
  rfl

/-- Up to the first refused packet the work follows the layout. -/
theorem run (h : packer.Agrees encoder limits layout) (packets : List Packet) :
    packer.run limits packets
      = let final := (packets.takeWhile encoder.accepts).foldl (Layout.place limits) layout
        (encoder.advance final.frames.length,
          ((packets.dropWhile encoder.accepts).head?.bind encoder.refusal?).elim
            (.ok (encoder.writeFrames limits final.frames)) .error) := by
  induction packets generalizing packer layout with
  | nil =>
    rw [Packer.run, h.finish.finished, h.numbered, List.reverse_reverse]
    simp only [List.takeWhile_nil, List.dropWhile_nil, List.head?_nil, List.foldl_nil, Layout.frames,
      List.length_reverse]
    rfl
  | cons packet packets ih =>
    rw [Packer.run, h.refusal? packet]
    cases hrefusal : encoder.refusal? packet with
    | none =>
      have haccepts : encoder.accepts packet = true := by rw [Encoder.accepts, hrefusal]; rfl
      rw [List.takeWhile_cons_of_pos haccepts, List.dropWhile_cons_of_pos haccepts, List.foldl_cons]
      exact ih h.add
    | some error =>
      have haccepts : ¬ encoder.accepts packet = true := by rw [Encoder.accepts, hrefusal]; exact Bool.false_ne_true
      rw [List.takeWhile_cons_of_neg haccepts, List.dropWhile_cons_of_neg haccepts]
      simp only [List.foldl_nil, List.head?_cons, Option.bind_some, hrefusal, Option.elim_some, h.numbered,
        Layout.frames, List.length_reverse]

end Agrees

theorem agrees_empty (encoder : Encoder) (limits : FrameLimits) : Agrees encoder limits { encoder } {} where
  numbered := encoder.advance_zero.symm
  finished := rfl
  opened := rfl
  counted := nofun

end Packer

namespace Encoder

variable {encoder : Encoder} {limits : FrameLimits} {packets : List Packet} {packet : Packet} {error : LinkError}

/-- Packing frame by frame is what a call does. -/
theorem pack_eq_encode (encoder : Encoder) (limits : FrameLimits) (packets : List Packet) :
    encoder.pack limits packets = encoder.encode limits packets := by
  by_cases husable : limits.Usable
  · have hvalidate := (FrameLimits.validate_eq_ok_iff limits).mpr husable
    rw [encode_of_usable packets husable, pack, hvalidate]
    exact (Packer.agrees_empty encoder limits).run packets
  · rw [pack, encode, FrameLimits.validate, if_neg husable]

/-! ### What speaks against a packet -/

/-- The packet's payload type is not the one that the encoder is bound to, or its payload is not valid. -/
def Offends (encoder : Encoder) (packet : Packet) : Prop :=
  (∃ expected, encoder.payloadType = some expected ∧ packet.payloadType ≠ expected)
    ∨ packet.payload.isValid = false

/-- The error that says what speaks against a packet.  A wrong type comes before a payload that is not valid. -/
inductive Objects (encoder : Encoder) (packet : Packet) : LinkError → Prop
  | wrongType {expected : PayloadType} (hbound : encoder.payloadType = some expected)
      (hother : packet.payloadType ≠ expected) :
      Objects encoder packet (.wrongPayloadType encoder.slot expected packet.payloadType)
  | unusable (hmatches : ∀ expected, encoder.payloadType = some expected → packet.payloadType = expected)
      (hinvalid : packet.payload.isValid = false) : Objects encoder packet (.unusablePayload packet.payloadType)

theorem objects_of_refusal? (h : encoder.refusal? packet = some error) : encoder.Objects packet error := by
  have hunusable : (∀ expected, encoder.payloadType = some expected → packet.payloadType = expected) →
      (if packet.payload.isValid = true then none else some (.unusablePayload packet.payloadType)) = some error →
      encoder.Objects packet error := by
    intro hmatches hcause
    by_cases hvalid : packet.payload.isValid = true
    · rw [if_pos hvalid] at hcause
      cases hcause
    · rw [if_neg hvalid, Option.some.injEq] at hcause
      rw [← hcause]
      exact .unusable hmatches (eq_false_of_ne_true hvalid)
  cases hbound : encoder.payloadType with
  | none =>
    simp only [refusal?, hbound] at h
    exact hunusable (fun other hother => by rw [hbound] at hother; cases hother) h
  | some expected =>
    simp only [refusal?, hbound] at h
    by_cases hother : expected ≠ packet.payloadType
    · rw [if_pos hother, Option.some.injEq] at h
      rw [← h]
      exact .wrongType hbound hother.symm
    · rw [if_neg hother] at h
      refine hunusable (fun other hsame => ?_) h
      rw [hbound, Option.some.injEq] at hsame
      exact hsame ▸ (not_not.mp hother).symm

theorem refusal?_eq_some_iff : encoder.refusal? packet = some error ↔ encoder.Objects packet error := by
  refine ⟨objects_of_refusal?, fun h => ?_⟩
  cases h with
  | wrongType hbound hother => simp only [refusal?, hbound, if_pos (Ne.symm hother)]
  | unusable hmatches hinvalid =>
    cases hbound : encoder.payloadType with
    | none => simp only [refusal?, hbound, hinvalid, Bool.false_eq_true, if_false]
    | some expected =>
      simp only [refusal?, hbound, hmatches expected hbound, ne_eq, not_true_eq_false, hinvalid, Bool.false_eq_true,
        if_false]

theorem offends_iff : encoder.Offends packet ↔ ∃ error, encoder.Objects packet error := by
  constructor
  · intro h
    by_cases hmatches : ∀ expected, encoder.payloadType = some expected → packet.payloadType = expected
    · rcases h with ⟨expected, hbound, hother⟩ | hinvalid
      · exact absurd (hmatches expected hbound) hother
      · exact ⟨_, .unusable hmatches hinvalid⟩
    · push Not at hmatches
      obtain ⟨expected, hbound, hother⟩ := hmatches
      exact ⟨_, .wrongType hbound hother⟩
  · rintro ⟨error, hbound | ⟨-, hinvalid⟩⟩
    · exact .inl ⟨_, hbound, by assumption⟩
    · exact .inr hinvalid

theorem accepts_iff_not_offends : encoder.accepts packet = true ↔ ¬ encoder.Offends packet := by
  rw [offends_iff, accepts, Option.isNone_iff_eq_none, Option.eq_none_iff_forall_ne_some]
  simp only [not_exists, ← refusal?_eq_some_iff, ne_eq]

/-! ### Refused calls -/

theorem encode_of_not_usable (h : ¬ limits.Usable) :
    encoder.encode limits packets = (encoder, .error (.unusableLimits limits.min limits.max)) := by
  rw [encode, FrameLimits.validate, if_neg h]

/-- The first packet that is refused decides, and the numbers of the frames for those before it are used up. -/
theorem encode_of_first_refused (husable : limits.Usable) {before : List Packet} (after : List Packet)
    (hbefore : ∀ other ∈ before, ¬ encoder.Offends other) (hrefused : encoder.Objects packet error) :
    ∃ frames, (encoder.encode limits before).2 = .ok frames
      ∧ encoder.encode limits (before ++ packet :: after)
        = ({ encoder with sequence := UInt16.ofNat (encoder.sequence.toNat + frames.length) }, .error error) := by
  have haccepted : ∀ other ∈ before, encoder.accepts other = true := fun other hother =>
    accepts_iff_not_offends.mpr (hbefore other hother)
  have hrefusal := refusal?_eq_some_iff.mpr hrefused
  have hrejected : ¬ encoder.accepts packet = true := by rw [accepts, hrefusal]; exact Bool.false_ne_true
  refine ⟨encoder.writeFrames limits (layout limits before), ?_, ?_⟩
  · have htake : before.takeWhile encoder.accepts = before := List.takeWhile_eq_self_iff.mpr haccepted
    have hdrop : before.dropWhile encoder.accepts = [] := List.dropWhile_eq_nil_iff.mpr haccepted
    rw [encode_of_usable before husable, htake, hdrop]
    rfl
  · have htake : (before ++ packet :: after).takeWhile encoder.accepts = before := by
      rw [List.takeWhile_append_of_pos haccepted, List.takeWhile_cons_of_neg hrejected, List.append_nil]
    have hdrop : (before ++ packet :: after).dropWhile encoder.accepts = packet :: after := by
      rw [List.dropWhile_append_of_pos haccepted, List.dropWhile_cons_of_neg hrejected]
    rw [encode_of_usable _ husable, htake, hdrop, List.head?_cons, Option.bind_some, hrefusal, writeFrames,
      List.length_mapIdx, UInt16.ofNat_add, UInt16.ofNat_toNat]
    rfl

theorem exists_first_offending (h : ∃ packet ∈ packets, encoder.Offends packet) :
    ∃ before packet after, packets = before ++ packet :: after ∧ (∀ other ∈ before, ¬ encoder.Offends other)
      ∧ encoder.Offends packet := by
  obtain ⟨packet, hpacket, hoffends⟩ := h
  have hsome : (packets.find? fun packet => !encoder.accepts packet).isSome = true := by
    rw [List.find?_isSome]
    refine ⟨packet, hpacket, ?_⟩
    rw [Bool.not_eq_true', ← Bool.not_eq_true, accepts_iff_not_offends, not_not]
    exact hoffends
  obtain ⟨first, hfirst⟩ := Option.isSome_iff_exists.mp hsome
  obtain ⟨hrejected, before, after, hsplit, hbefore⟩ := List.find?_eq_some_iff_append.mp hfirst
  rw [Bool.not_eq_true', ← Bool.not_eq_true, accepts_iff_not_offends, not_not] at hrejected
  refine ⟨before, first, after, hsplit, fun other hother => ?_, hrejected⟩
  have haccepted := hbefore other hother
  rw [Bool.not_not] at haccepted
  exact accepts_iff_not_offends.mp haccepted

/-- A call fails exactly if the limits cannot be used or something speaks against a packet. -/
theorem encode_fails_iff : (∃ error, (encoder.encode limits packets).2 = .error error)
    ↔ ¬ limits.Usable ∨ ∃ packet ∈ packets, encoder.Offends packet := by
  constructor
  · rintro ⟨error, herror⟩
    by_contra hnone
    push Not at hnone
    obtain ⟨husable, hpackets⟩ := hnone
    have haccepted : ∀ packet ∈ packets, encoder.accepts packet = true := fun packet hpacket =>
      accepts_iff_not_offends.mpr (hpackets packet hpacket)
    rw [encode_of_usable packets husable, List.dropWhile_eq_nil_iff.mpr haccepted] at herror
    cases herror
  · intro h
    by_cases husable : limits.Usable
    · obtain ⟨before, packet, after, rfl, hbefore, hoffends⟩ :=
        exists_first_offending (h.resolve_left (not_not.mpr husable))
      obtain ⟨error, hobjects⟩ := offends_iff.mp hoffends
      obtain ⟨frames, -, hencode⟩ := encode_of_first_refused husable after hbefore hobjects
      rw [hencode]
      exact ⟨error, rfl⟩
    · rw [encode_of_not_usable husable]
      exact ⟨_, rfl⟩

/-- A call packs frame by frame, until it is refused.  It is refused exactly if the limits cannot be used, or a packet
has another payload type than the encoder is bound to, or a payload that is not valid.  The limits are looked at first,
and then nothing has changed.  Else the first such packet gives the error, its type before its payload, and nothing has
changed but that as many frame numbers are used up as there are frames for the packets before it. -/
theorem encode_refuses (encoder : Encoder) (limits : FrameLimits) (packets : List Packet) :
    encoder.pack limits packets = encoder.encode limits packets
      ∧ ((∃ error, (encoder.encode limits packets).2 = .error error)
        ↔ ¬ limits.Usable ∨ ∃ packet ∈ packets, encoder.Offends packet)
      ∧ (¬ limits.Usable →
        encoder.encode limits packets = (encoder, .error (.unusableLimits limits.min limits.max)))
      ∧ ∀ before packet after error, packets = before ++ packet :: after → limits.Usable →
        (∀ other ∈ before, ¬ encoder.Offends other) → encoder.Objects packet error →
        ∃ frames, (encoder.encode limits before).2 = .ok frames
          ∧ encoder.encode limits packets
            = ({ encoder with sequence := UInt16.ofNat (encoder.sequence.toNat + frames.length) }, .error error) := by
  refine ⟨pack_eq_encode encoder limits packets, encode_fails_iff, encode_of_not_usable, ?_⟩
  rintro before packet after error rfl husable hbefore hobjects
  exact encode_of_first_refused husable after hbefore hobjects

/-- An encoder of bus frames whose next call wraps the frame number. -/
def boundEncoder : Encoder := { wrappingEncoder with payloadType := some .can }

/-- The block is refused while the frame of the two bus frames before it is open, and the number of that frame is used
up.  Crossed limits are refused first. -/
theorem encode_refuses_mixedTraffic :
    boundEncoder.encode ⟨64, 84⟩ mixedTraffic
        = ({ boundEncoder with sequence := 0 }, .error (.wrongPayloadType 9 .can .analog))
      ∧ boundEncoder.encode ⟨84, 64⟩ mixedTraffic = (boundEncoder, .error (.unusableLimits 84 64)) := by
  obtain ⟨-, -, -, hfirst⟩ := encode_refuses boundEncoder ⟨64, 84⟩ mixedTraffic
  obtain ⟨-, -, hlimits, -⟩ := encode_refuses boundEncoder ⟨84, 64⟩ mixedTraffic
  have hbefore : ∀ other ∈ mixedTraffic.take 2, ¬ boundEncoder.Offends other := by
    simp only [← accepts_iff_not_offends]
    decide
  have hobjects : boundEncoder.Objects (mixedTraffic.getD 2 default) (.wrongPayloadType 9 .can .analog) :=
    .wrongType rfl (by decide)
  obtain ⟨frames, hframes, hencode⟩ := hfirst (mixedTraffic.take 2) (mixedTraffic.getD 2 default) (mixedTraffic.drop 3)
    (.wrongPayloadType 9 .can .analog) rfl (by decide) hbefore hobjects
  obtain ⟨-, -, rfl, -⟩ := encode_ok hframes
  have hcount : (boundEncoder.writeFrames ⟨64, 84⟩ (layout ⟨64, 84⟩ (mixedTraffic.take 2))).length = 1 := by
    rw [writeFrames, List.length_mapIdx]
    decide +kernel
  rw [hcount] at hencode
  exact ⟨hencode, hlimits (by decide)⟩

end Encoder

end CaptureProtocol
