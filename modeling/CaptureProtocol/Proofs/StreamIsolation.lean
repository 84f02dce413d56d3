import CaptureProtocol.Proofs.FrameReading
import CaptureProtocol.Proofs.Reception
import Mathlib

/-!
# Streams do not disturb each other

What a decoder makes of one stream of one device depends on the frames of that stream alone.  Two decoders are run
side by side, one on all frames and one on those of the stream; they agree on the stream all the time.

* `StreamKey.isOf`, `Arrival.isOf` — what belongs to a stream;
* `Decoder.view` — what is pending for a stream; `Agree`: two decoders that hold the same for it;
* `accept_address` — a frame gives packets of its own stream only;
* `accept_agree`, `accept_other` — a piece of a frame of the stream, and of another one;
* `receive_isolated` — every list of frames.
-/

namespace CaptureProtocol

/-- Whether an address belongs to a stream of a device. -/
def StreamKey.isOf (device : UInt16) (stream : UInt8) (key : StreamKey) : Bool :=
  key.deviceId == device && key.streamId == stream

def FrameHeader.isOf (device : UInt16) (stream : UInt8) (frame : FrameHeader) : Bool :=
  frame.deviceId == device && frame.streamId == stream

/-- Whether a frame says that it belongs to a stream of a device.  A frame without a whole header says nothing. -/
def Arrival.isOf (device : UInt16) (stream : UInt8) (arrival : Arrival) : Bool :=
  match FrameHeader.read arrival.bytes with
  | none => false
  | some (frame, _) => frame.isOf device stream

theorem Arrival.isOf_of_read {arrival : Arrival} {frame : FrameHeader} {rest : Bytes}
    (h : FrameHeader.read arrival.bytes = some (frame, rest)) (device : UInt16) (stream : UInt8) :
    arrival.isOf device stream = frame.isOf device stream := by
  rw [Arrival.isOf, h]

namespace Decoder

/-! ### What is pending for a stream -/

/-- What is pending for a stream. -/
def view (device : UInt16) (stream : UInt8) (decoder : Decoder) : List (StreamKey × PendingPayload) :=
  decoder.pending.filter fun entry => entry.1.isOf device stream

section View

variable {device : UInt16} {stream : UInt8} (decoder : Decoder) {key : StreamKey} (pending : PendingPayload)

theorem view_forget (key : StreamKey) :
    (decoder.forget key).view device stream = (decoder.view device stream).filter (·.1 != key) := by
  rw [view, view, forget, List.filter_filter, List.filter_filter]
  refine List.filter_congr fun entry _ => ?_
  exact Bool.and_comm _ _

theorem view_expire (now : Nat) :
    (decoder.expire now).1.view device stream
      = (decoder.view device stream).filter fun entry => now - entry.2.since < decoder.timeout := by
  show (decoder.pending.filter _).filter _ = (decoder.pending.filter _).filter _
  rw [List.filter_filter, List.filter_filter]
  refine List.filter_congr fun entry _ => ?_
  exact Bool.and_comm _ _

theorem view_hold (hkey : key.isOf device stream = true) :
    (decoder.hold key pending).view device stream
      = (key, pending) :: (decoder.view device stream).filter (·.1 != key) := by
  rw [← view_forget]
  exact List.filter_cons_of_pos hkey

/-- Forgetting an address of another stream changes nothing. -/
theorem view_forget_other (hkey : key.isOf device stream = false) :
    (decoder.forget key).view device stream = decoder.view device stream := by
  rw [view_forget, List.filter_eq_self]
  intro entry hentry
  have hentryOf := (List.mem_filter.mp hentry).2
  rw [bne_iff_ne]
  rintro rfl
  rw [hkey] at hentryOf
  cases hentryOf

theorem view_hold_other (hkey : key.isOf device stream = false) :
    (decoder.hold key pending).view device stream = decoder.view device stream := by
  rw [← view_forget_other decoder hkey]
  exact List.filter_cons_of_neg (by rw [hkey]; decide)

/-- What is pending for an address of the stream is looked up in what is pending for the stream. -/
theorem pending?_eq_view (hkey : key.isOf device stream = true) :
    decoder.pending? key = (decoder.view device stream).lookup key :=
  (lookup_filter_of_pos decoder.pending (StreamKey.isOf device stream) hkey).symm

end View

/-- Two decoders hold the same for a stream. -/
structure Agree (device : UInt16) (stream : UInt8) (left right : Decoder) : Prop where
  timeout : left.timeout = right.timeout
  view : left.view device stream = right.view device stream

section Agree

variable {device : UInt16} {stream : UInt8} {left right : Decoder} {key : StreamKey}

theorem Agree.pending?_eq (h : Agree device stream left right) (hkey : key.isOf device stream = true) :
    left.pending? key = right.pending? key := by
  rw [pending?_eq_view left hkey, pending?_eq_view right hkey, h.view]

theorem Agree.forget (h : Agree device stream left right) (key : StreamKey) :
    Agree device stream (left.forget key) (right.forget key) where
  timeout := h.timeout
  view := by rw [view_forget, view_forget, h.view]

theorem Agree.hold (h : Agree device stream left right) (hkey : key.isOf device stream = true)
    (pending : PendingPayload) : Agree device stream (left.hold key pending) (right.hold key pending) where
  timeout := h.timeout
  view := by rw [view_hold left pending hkey, view_hold right pending hkey, h.view]

theorem Agree.forget_left (h : Agree device stream left right) (hkey : key.isOf device stream = false) :
    Agree device stream (left.forget key) right where
  timeout := h.timeout
  view := (view_forget_other left hkey).trans h.view

theorem Agree.hold_left (h : Agree device stream left right) (hkey : key.isOf device stream = false)
    (pending : PendingPayload) : Agree device stream (left.hold key pending) right where
  timeout := h.timeout
  view := (view_hold_other left pending hkey).trans h.view

/-- What goes stale in the second decoder is of other streams, as long as nothing does in the first. -/
theorem Agree.expire_right (h : Agree device stream left right) {now : Nat} (hfresh : left.Fresh now) :
    Agree device stream left (right.expire now).1 where
  timeout := h.timeout
  view := by
    rw [view_expire, ← h.timeout, ← h.view, eq_comm, List.filter_eq_self]
    intro entry hentry
    exact decide_eq_true (hfresh entry (List.mem_of_mem_filter hentry))

end Agree

/-! ### Pieces of frames -/

/-- A frame gives packets of its own stream only.  A payload that it completes was held under its first part's
address. -/
theorem accept_address {decoder : Decoder} (h : decoder.Consistent) (now : Nat) (frame : FrameHeader) (piece : Piece)
    (device : UInt16) (stream : UInt8) :
    ∀ packet ∈ (accept now frame decoder piece).2,
      packet.key.isOf device stream = frame.isOf device stream := by
  intro packet hpacket
  obtain ⟨after, packets, haccept, houtcome⟩ := accept_outcome now frame decoder piece
  rw [haccept] at hpacket
  cases houtcome with
  | truncated | single =>
    rw [List.mem_singleton.mp hpacket]
    rfl
  | opened | orphan | broken | appended => exact absurd hpacket List.not_mem_nil
  | @completed message pending _ hpending _ =>
    have hkey := Every.of_pending? h hpending
    simp only [keyOf, StreamKey.mk.injEq] at hkey
    rw [List.mem_singleton.mp hpacket, FrameHeader.isOf, hkey.1, hkey.2.2]
    rfl

/-- A piece of a frame of the stream does the same to both decoders. -/
theorem accept_agree {device : UInt16} {stream : UInt8} {left right : Decoder} (h : Agree device stream left right)
    (now : Nat) {frame : FrameHeader} (hframe : frame.isOf device stream = true)
    (piece : Piece) :
    Agree device stream (accept now frame left piece).1 (accept now frame right piece).1
      ∧ (accept now frame left piece).2 = (accept now frame right piece).2 := by
  cases piece with
  | truncated message => exact ⟨h, rfl⟩
  | whole message =>
    have hkey : (keyOf frame message.header).isOf device stream = true := hframe
    have hproceed : ∀ isLast, Agree device stream (proceed frame message isLast left).1
        (proceed frame message isLast right).1
        ∧ (proceed frame message isLast left).2 = (proceed frame message isLast right).2 := by
      intro isLast
      simp only [proceed, h.pending?_eq hkey]
      cases right.pending? (keyOf frame message.header) with
      | none => exact ⟨h, rfl⟩
      | some pending =>
        by_cases hnext : pending.next = frame.sequence
        · simp only [if_pos hnext]
          cases isLast
          · exact ⟨h.hold hkey _, rfl⟩
          · exact ⟨h.forget _, rfl⟩
        · simp only [if_neg hnext]
          exact ⟨h.forget _, trivial⟩
    cases hposition : message.header.flags.segmentation with
    | unsegmented =>
      simp only [accept, hposition]
      exact ⟨h, trivial⟩
    | first =>
      simp only [accept, hposition]
      exact ⟨h.hold hkey _, trivial⟩
    | intermediary =>
      simp only [accept, hposition]
      exact hproceed false
    | last =>
      simp only [accept, hposition]
      exact hproceed true

/-- A piece of a frame of another stream changes nothing for the stream. -/
theorem accept_other {device : UInt16} {stream : UInt8} {left right : Decoder} (h : Agree device stream left right)
    (now : Nat) {frame : FrameHeader} (hframe : frame.isOf device stream = false)
    (piece : Piece) : Agree device stream (accept now frame left piece).1 right := by
  have hkey : ∀ header, (keyOf frame header).isOf device stream = false := fun _ => hframe
  obtain ⟨after, packets, haccept, houtcome⟩ := accept_outcome now frame left piece
  rw [haccept]
  cases houtcome with
  | truncated | single | orphan => exact h
  | opened | appended => exact h.hold_left (hkey _) _
  | broken | completed => exact h.forget_left (hkey _)

/-! ### Frames -/

/-- A frame gives packets of its own stream only. -/
theorem decode_address {decoder : Decoder} (h : decoder.Consistent) (arrival : Arrival) (device : UInt16)
    (stream : UInt8) :
    ∀ packet ∈ (decoder.decode arrival.time arrival.bytes).2,
      packet.key.isOf device stream = arrival.isOf device stream := by
  refine (decode_invariant Consistent (fun packet => packet.key.isOf device stream = arrival.isOf device stream)
    (fun _ h => Every.expire h arrival.time) ?_ h).2
  intro frame rest hread state piece hstate
  rw [Arrival.isOf_of_read hread]
  exact ⟨hstate.accept arrival.time frame piece, accept_address hstate arrival.time frame piece device stream⟩

section Frames

variable {device : UInt16} {stream : UInt8} {left right : Decoder} (h : Agree device stream left right)
  {arrival : Arrival} (hfresh : left.Fresh arrival.time)

include h

theorem collect_agree (now : Nat) {frame : FrameHeader} (hframe : frame.isOf device stream = true)
    (pieces : List Piece) :
    Agree device stream (Run.collect (accept now frame) left pieces).1 (Run.collect (accept now frame) right pieces).1
      ∧ (Run.collect (accept now frame) left pieces).2 = (Run.collect (accept now frame) right pieces).2 := by
  induction pieces generalizing left right with
  | nil => exact ⟨h, rfl⟩
  | cons piece pieces ih =>
    obtain ⟨hstep, hpackets⟩ := accept_agree h now hframe piece
    obtain ⟨hend, hlater⟩ := ih hstep
    rw [Run.collect_cons, Run.collect_cons, hpackets, hlater]
    exact ⟨hend, rfl⟩

include hfresh

/-- A frame of the stream does the same to both decoders. -/
theorem decode_agree (harrival : arrival.isOf device stream = true) :
    Agree device stream (left.decode arrival.time arrival.bytes).1 (right.decode arrival.time arrival.bytes).1
      ∧ (left.decode arrival.time arrival.bytes).2 = (right.decode arrival.time arrival.bytes).2 := by
  cases hread : FrameHeader.read arrival.bytes with
  | none =>
    rw [Arrival.isOf, hread] at harrival
    cases harrival
  | some found =>
    rw [Arrival.isOf_of_read hread] at harrival
    rw [decode_of_read hread, decode_of_read hread, expire_of_fresh hfresh]
    exact collect_agree (h.expire_right hfresh) arrival.time harrival (cut found.2)

/-- A frame of another stream changes nothing for the stream. -/
theorem decode_other (harrival : arrival.isOf device stream = false) :
    Agree device stream (left.decode arrival.time arrival.bytes).1 right := by
  cases hread : FrameHeader.read arrival.bytes with
  | none =>
    rw [decode_of_short hread, expire_of_fresh hfresh]
    exact h
  | some found =>
    rw [Arrival.isOf_of_read hread] at harrival
    rw [decode_of_read hread, expire_of_fresh hfresh]
    refine (Run.collect_invariant (fun state => Agree device stream state right) (fun _ => True) ?_ (cut found.2) h).1
    intro state piece hstate
    exact ⟨accept_other hstate arrival.time harrival piece, fun _ _ => trivial⟩

end Frames

/-- Two decoders that agree on a stream, one with all frames and one with those of the stream.  The induction is on
the frames that are still to come. -/
theorem receive_agree {device : UInt16} {stream : UInt8} {left right : Decoder} (h : Agree device stream left right)
    (hconsistent : left.Consistent) {arrivals : List Arrival} (hundisturbed : left.Undisturbed arrivals) :
    Agree device stream (left.receive arrivals).1 (right.receive (arrivals.filter (Arrival.isOf device stream))).1
      ∧ (left.receive arrivals).2.filter (fun packet => packet.key.isOf device stream)
        = (right.receive (arrivals.filter (Arrival.isOf device stream))).2 := by
  induction arrivals generalizing left right with
  | nil => exact ⟨h, rfl⟩
  | cons arrival arrivals ih =>
    obtain ⟨hfresh, hlater⟩ := hundisturbed
    have hnext := hconsistent.decode arrival.time arrival.bytes
    have haddress := decode_address hconsistent arrival device stream
    rw [receive_cons, List.filter_append]
    by_cases harrival : arrival.isOf device stream = true
    · obtain ⟨hstep, hpackets⟩ := decode_agree h hfresh harrival
      obtain ⟨hend, hrest⟩ := ih hstep hnext hlater
      have hown : (left.decode arrival.time arrival.bytes).2.filter (fun packet => packet.key.isOf device stream)
          = (left.decode arrival.time arrival.bytes).2 :=
        List.filter_eq_self.mpr fun packet hpacket => (haddress packet hpacket).trans harrival
      rw [List.filter_cons_of_pos harrival, receive_cons, hown, hrest, hpackets]
      exact ⟨hend, rfl⟩
    · have hother := Bool.eq_false_of_not_eq_true harrival
      obtain ⟨hend, hrest⟩ := ih (decode_other h hfresh hother) hnext hlater
      have hnone : (left.decode arrival.time arrival.bytes).2.filter (fun packet => packet.key.isOf device stream)
          = [] :=
        List.filter_eq_nil_iff.mpr fun packet hpacket => by
          rw [haddress packet hpacket]
          exact harrival
      rw [List.filter_cons_of_neg harrival, hnone, List.nil_append]
      exact ⟨hend, hrest⟩

/-- No stream disturbs another one.  The packets of a stream, and what is pending for it at the end, are those of the
same decoder with the frames of the stream alone. -/
theorem receive_isolated {decoder : Decoder} (hreachable : decoder.Reachable) {arrivals : List Arrival}
    (hundisturbed : decoder.Undisturbed arrivals) (device : UInt16) (stream : UInt8) :
    (decoder.receive arrivals).2.filter (fun packet => packet.key.isOf device stream)
        = (decoder.receive (arrivals.filter (Arrival.isOf device stream))).2
      ∧ (decoder.receive arrivals).1.view device stream
        = (decoder.receive (arrivals.filter (Arrival.isOf device stream))).1.view device stream := by
  obtain ⟨hagree, hpackets⟩ := receive_agree ⟨rfl, rfl⟩ hreachable.consistent hundisturbed
  exact ⟨hpackets, hagree.view⟩

end Decoder

/-- Two streams of one device, the first of them in the middle of a payload when they start. -/
def twoStreams : List Arrival :=
  let body := (CanFrame.ofIdentifier 0x123 [1, 2, 3]).write
  [⟨1, canPart 10 1 .last (body.drop 7)⟩, ⟨2, canPart 10 65535 .first (body.take 7)⟩,
   ⟨3, canPart 9 1 .last (body.drop 7)⟩, ⟨4, [1, 0, 0, 7]⟩, ⟨5, canPart 10 0 .last (body.drop 7)⟩,
   ⟨6, canPart 9 2 .first (body.take 7)⟩]

namespace Decoder

theorem receive_isolated_twoStreams :
    let decoder := (decode 0 { timeout := 2000 }
      (canPart 9 0 .first ((CanFrame.ofIdentifier 0x123 [1, 2, 3]).write.take 7))).1
    (decoder.receive twoStreams).2.length = 2
      ∧ (decoder.receive twoStreams).2.filter (fun packet => packet.key.isOf 7 9)
        = (decoder.receive (twoStreams.filter (Arrival.isOf 7 9))).2
      ∧ (decoder.receive twoStreams).1.view 7 9
        = (decoder.receive (twoStreams.filter (Arrival.isOf 7 9))).1.view 7 9 := by
  intro decoder
  have hreachable : decoder.Reachable := Reachable.decode (.empty 2000) 0 _
  have hyoung : ∀ entry ∈ decoder.pending, 6 - entry.2.since < decoder.timeout := by decide +kernel
  have hwithin : ∀ arrival ∈ twoStreams, arrival.time ≤ 6 ∧ 6 - arrival.time < decoder.timeout := by decide +kernel
  exact ⟨by decide +kernel, receive_isolated hreachable (undisturbed_of_within 6 hyoung hwithin) 7 9⟩

end Decoder

end CaptureProtocol
