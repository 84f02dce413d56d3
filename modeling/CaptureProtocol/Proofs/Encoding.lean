import CaptureProtocol.Proofs.FramePlan
import Mathlib

/-!
# Calls of an encoder

* `Encoder.writeFrames_cons`, `writeFrames_append`, `advance_advance` — frames are numbered one after the other;
* `Encoder.framesStarted` — how many frame numbers a call uses up, `encode_fst` says that it does;
* `Encoder.encode_ok` — a call that succeeds had usable limits, accepted every packet and gave the frames of their
  layout;
* `Packet.Sendable` — a packet that arrives: its payload is valid and its message kind is the one that it needs.
-/

namespace CaptureProtocol

/-- A packet whose payload is valid and whose message kind is the one that the payload needs. -/
structure Packet.Sendable (packet : Packet) : Prop where
  valid : packet.payload.isValid = true
  kind : packet.payloadType.messageType? = some packet.messageType

theorem FrameLimits.Usable.capacity_pos {limits : FrameLimits} (h : limits.Usable) : 0 < limits.bodyCapacity := by
  have hmax := h.2
  refine lt_min ?_ (by decide)
  omega

theorem FrameLimits.capacity_le (limits : FrameLimits) : limits.bodyCapacity ≤ 65535 := min_le_right _ _

namespace Encoder

/-! ### Frame numbers -/

theorem advance_zero (encoder : Encoder) : encoder.advance 0 = encoder := by
  simp [advance]

theorem advance_advance (encoder : Encoder) (first second : Nat) :
    (encoder.advance first).advance second = encoder.advance (first + second) := by
  simp [advance, UInt16.ofNat_add, add_assoc]

@[simp] theorem sequence_frameHeader_zero (encoder : Encoder) (kind : MessageType) :
    (encoder.frameHeader kind 0).sequence = encoder.sequence := by
  simp [frameHeader]

theorem sequence_advance_one (encoder : Encoder) : (encoder.advance 1).sequence = encoder.sequence + 1 := by
  simp [advance]

theorem frameHeader_advance (encoder : Encoder) (count : Nat) (kind : MessageType) (index : Nat) :
    (encoder.advance count).frameHeader kind index = encoder.frameHeader kind (count + index) := by
  simp [advance, frameHeader, UInt16.ofNat_add, add_assoc]

theorem writeFrame_advance (encoder : Encoder) (limits : FrameLimits) (count index : Nat) (draft : FrameDraft) :
    (encoder.advance count).writeFrame limits index draft = encoder.writeFrame limits (count + index) draft := by
  rw [writeFrame, writeFrame, frameHeader_advance]

@[simp] theorem writeFrames_nil (encoder : Encoder) (limits : FrameLimits) : encoder.writeFrames limits [] = [] :=
  rfl

/-- The first frame, then the others under the following numbers. -/
theorem writeFrames_cons (encoder : Encoder) (limits : FrameLimits) (draft : FrameDraft)
    (drafts : List FrameDraft) :
    encoder.writeFrames limits (draft :: drafts)
      = encoder.writeFrame limits 0 draft :: (encoder.advance 1).writeFrames limits drafts := by
  rw [writeFrames, List.mapIdx_cons, writeFrames]
  congr 2
  funext index draft
  rw [writeFrame_advance, Nat.add_comm]

theorem writeFrames_append (encoder : Encoder) (limits : FrameLimits) (front back : List FrameDraft) :
    encoder.writeFrames limits (front ++ back)
      = encoder.writeFrames limits front ++ (encoder.advance front.length).writeFrames limits back := by
  induction front generalizing encoder with
  | nil => rw [List.nil_append, writeFrames_nil, List.nil_append, List.length_nil, advance_zero]
  | cons draft front ih =>
    rw [List.cons_append, writeFrames_cons, writeFrames_cons, ih, advance_advance, List.cons_append,
      List.length_cons, Nat.add_comm 1]

/-! ### Calls -/

/-- An accepted packet has a valid payload. -/
theorem isValid_of_accepts {encoder : Encoder} {packet : Packet} (h : encoder.accepts packet = true) :
    packet.payload.isValid = true := by
  rw [accepts, Option.isNone_iff_eq_none, refusal?] at h
  split at h <;> split_ifs at h <;> assumption

/-- The number of frames that a call starts: none under unusable limits, else those of the packets before the
first refused one. -/
def framesStarted (encoder : Encoder) (limits : FrameLimits) (packets : List Packet) : Nat :=
  if limits.Usable then (layout limits (packets.takeWhile encoder.accepts)).length else 0

theorem encode_of_usable {encoder : Encoder} {limits : FrameLimits} (packets : List Packet)
    (husable : limits.Usable) :
    encoder.encode limits packets
      = (encoder.advance (layout limits (packets.takeWhile encoder.accepts)).length,
          ((packets.dropWhile encoder.accepts).head?.bind encoder.refusal?).elim
            (.ok (encoder.writeFrames limits (layout limits (packets.takeWhile encoder.accepts)))) .error) := by
  have hvalidate := (FrameLimits.validate_eq_ok_iff limits).mpr husable
  simp only [encode, hvalidate, List.span_eq_takeWhile_dropWhile]
  cases (packets.dropWhile encoder.accepts).head?.bind encoder.refusal? <;> rfl

/-- A call uses up the numbers of the frames that it starts. -/
theorem encode_fst (encoder : Encoder) (limits : FrameLimits) (packets : List Packet) :
    (encoder.encode limits packets).1 = encoder.advance (encoder.framesStarted limits packets) := by
  by_cases husable : limits.Usable
  · rw [encode_of_usable packets husable, framesStarted, if_pos husable]
  · rw [framesStarted, if_neg husable, advance_zero, encode, FrameLimits.validate, if_neg husable]

/-- A call that succeeds accepts every packet and gives the frames of their layout. -/
theorem encode_ok {encoder : Encoder} {limits : FrameLimits} {packets : List Packet} {frames : List Bytes}
    (h : (encoder.encode limits packets).2 = .ok frames) :
    limits.Usable ∧ (∀ packet ∈ packets, encoder.accepts packet = true)
      ∧ frames = encoder.writeFrames limits (layout limits packets)
      ∧ encoder.framesStarted limits packets = (layout limits packets).length := by
  by_cases husable : limits.Usable
  · rw [encode_of_usable packets husable] at h
    have hall : packets.dropWhile encoder.accepts = [] := by
      -- a packet that is left over would be refused
      cases hothers : packets.dropWhile encoder.accepts with
      | nil => rfl
      | cons packet others =>
        have hrefused := List.head?_dropWhile_not encoder.accepts packets
        simp only [hothers, List.head?_cons] at hrefused h
        rw [accepts] at hrefused
        cases hcause : encoder.refusal? packet <;> simp_all
    have htake : packets.takeWhile encoder.accepts = packets := by
      have := List.takeWhile_append_dropWhile (p := encoder.accepts) (l := packets)
      rwa [hall, List.append_nil] at this
    rw [hall, htake] at h
    refine ⟨husable, fun packet hpacket => ?_, (Except.ok.inj h).symm, by rw [framesStarted, if_pos husable, htake]⟩
    rw [← htake] at hpacket
    exact List.mem_takeWhile_imp hpacket
  · rw [encode, FrameLimits.validate, if_neg husable] at h
    cases h

end Encoder

end CaptureProtocol
