import CaptureProtocol.Proofs.FrameGrammar
import Mathlib

/-!
# Frames that are cut off

A frame may lose its end on the way, at any byte.  What is left of it gives the packets of the messages that are left
whole, and at most one more, which is not valid and leaves no trace in the decoder.  Where the cut falls makes no
difference: in the frame header, in a message header, in a body, or in such a way that only zero bytes are left of a
message.

* `Reader.LeavesRest` — a reader that finds the same whatever follows; `FrameHeader.leavesRest_read`;
* `cut_append` — the messages of the first bytes of a frame;
* `Cropped` — what is heard of a frame that is cut off; `cropped_hear`;
* `Decoder.decode_take` — what a decoder makes of it.
-/

namespace CaptureProtocol

/-! ### Readers and what follows -/

namespace Reader

variable {α β : Type}

/-- The reader finds the same whatever follows, and leaves it. -/
def LeavesRest (reader : Reader α) : Prop :=
  ∀ (bytes rest tail : Bytes) (value : α), reader bytes = some (value, rest) →
    reader (bytes ++ tail) = some (value, rest ++ tail)

theorem leavesRest_pure (value : α) : LeavesRest (pure value : Reader α) := by
  intro bytes rest tail found h
  cases pure_eq_some.mp h
  rfl

theorem leavesRest_u8 : LeavesRest u8 := by
  intro bytes rest tail byte h
  rw [u8_eq_some h]
  rfl

theorem leavesRest_take (count : Nat) : LeavesRest (take count) := by
  intro bytes rest tail front h
  obtain ⟨hlength, rfl⟩ := take_eq_some h
  rw [← hlength, List.append_assoc, take_append]

theorem LeavesRest.bind {reader : Reader α} {next : α → Reader β} (h : LeavesRest reader)
    (hnext : ∀ value, LeavesRest (next value)) : LeavesRest (reader >>= next) := by
  intro bytes rest tail result hresult
  obtain ⟨value, left, hvalue, hrest⟩ := bind_eq_some.mp hresult
  exact bind_eq_some.mpr ⟨value, left ++ tail, h bytes left tail value hvalue, hnext value left rest tail result hrest⟩

theorem leavesRest_skip (count : Nat) : LeavesRest (skip count) :=
  (leavesRest_take count).bind fun _ => leavesRest_pure _

theorem leavesRest_u16 : LeavesRest u16 := (leavesRest_take 2).bind fun _ => leavesRest_pure _

end Reader

open Reader in
theorem FrameHeader.leavesRest_read : LeavesRest FrameHeader.read :=
  leavesRest_u8.bind fun _ => (leavesRest_skip 1).bind fun _ => leavesRest_u16.bind fun _ => leavesRest_u8.bind fun _ =>
    leavesRest_u8.bind fun _ => leavesRest_u16.bind fun _ => leavesRest_pure _

/-! ### The messages that are left -/

/-- The first bytes of a frame hold its first messages, then at most one that is cut short. -/
theorem cut_append (part tail : Bytes) : ∃ (messages : List Message) (lost : Option Message),
    cut part = messages.map .whole ++ lost.toList.map .truncated
      ∧ messages.map .whole <+: cut (part ++ tail) := by
  have hsplits := splits_cut part
  generalize cut part = pieces at hsplits
  induction hsplits with
  | short | padding => exact ⟨[], none, rfl, List.nil_prefix⟩
  | @truncated bytes rest header => exact ⟨[], some ⟨header, rest⟩, rfl, List.nil_prefix⟩
  | @whole bytes body rest header pieces hzero hread hlength _ ih =>
    obtain ⟨messages, lost, hpieces, hinitial⟩ := ih
    -- the message is no padding in the frame either, since it is none by itself
    have hframe : (header.write ++ (body ++ (rest ++ tail))).allZero = false := by
      rw [MessageHeader.read_eq_some hread] at hzero
      rw [← List.append_assoc body, ← List.append_assoc header.write, allZero_append, hzero, Bool.false_and]
    refine ⟨⟨header, body⟩ :: messages, lost, ?_, ?_⟩
    · rw [hpieces, List.map_cons, List.cons_append]
    · rw [MessageHeader.read_eq_some hread, List.append_assoc, List.append_assoc, cut_whole hlength hframe,
        List.map_cons]
      exact List.cons_prefix_cons.mpr ⟨rfl, hinitial⟩

/-- What is heard of a frame that is cut off: its first messages, then perhaps one whose end is missing. -/
structure Cropped (part frame : Bytes) (messages : List Heard) (lost : Option Heard) : Prop where
  heard : hear part = messages ++ lost.toList
  initial : messages <+: hear frame
  whole : ∀ heard ∈ messages, ∃ message, heard.piece = .whole message
  truncated : ∀ heard ∈ lost, ∃ message, heard.piece = .truncated message

theorem cropped_hear (part tail : Bytes) : ∃ messages lost, Cropped part (part ++ tail) messages lost := by
  cases hread : FrameHeader.read part with
  | none => exact ⟨[], none, hear_of_short hread, List.nil_prefix, List.forall_mem_nil _,
      fun heard h => absurd h (Option.not_mem_none heard)⟩
  | some found =>
    obtain ⟨header, rest⟩ := found
    obtain ⟨messages, lost, hpieces, hinitial⟩ := cut_append rest tail
    refine ⟨(messages.map Piece.whole).map (Heard.mk header), (lost.map Piece.truncated).map (Heard.mk header),
      ?_, ?_, ?_, ?_⟩
    · rw [hear_of_read hread, hpieces, List.map_append]
      cases lost <;> rfl
    · rw [hear_of_read (FrameHeader.leavesRest_read part rest tail header hread)]
      exact hinitial.map _
    · simp only [List.forall_mem_map]
      exact fun message _ => ⟨message, rfl⟩
    · simp only [Option.forall_mem_map]
      exact fun message _ => ⟨message, rfl⟩

/-! ### The packets that are left -/

namespace Decoder

/-- A message that is cut short gives one packet that is not valid, and touches nothing that is pending. -/
theorem collect_lost (now : Nat) (decoder : Decoder) {lost : Option Heard}
    (h : ∀ heard ∈ lost, ∃ message, heard.piece = .truncated message) :
    ∃ further, Run.collect (take now) decoder lost.toList = (decoder, further) ∧ further.length ≤ 1
      ∧ ∀ packet ∈ further, packet.isValid = false ∧ ∃ rawType data, packet.payload = .undefined rawType data := by
  cases lost with
  | none => exact ⟨[], rfl, Nat.zero_le 1, List.forall_mem_nil _⟩
  | some heard =>
    obtain ⟨frame, piece⟩ := heard
    obtain ⟨message, rfl⟩ := h _ rfl
    refine ⟨_, rfl, le_rfl, ?_⟩
    intro packet hpacket
    rw [List.mem_singleton.mp hpacket]
    exact ⟨Bool.and_false _, _, _, rfl⟩

/-- A frame that is cut off never gives anything valid that the frame does not give.  Its packets are the first ones of
the frame, those of the messages that are left whole, then at most one that is undefined and not valid.  The decoder is
left as the whole messages leave it: the message that is cut short touches nothing that is pending. -/
theorem decode_take (decoder : Decoder) (now count : Nat) (frame : Bytes) :
    ∃ messages lost kept further, Cropped (frame.take count) frame messages lost
      ∧ Run.collect (take now) (decoder.expire now).1 messages = ((decoder.decode now (frame.take count)).1, kept)
      ∧ (decoder.decode now (frame.take count)).2 = kept ++ further
      ∧ kept <+: (decoder.decode now frame).2
      ∧ further.length ≤ 1
      ∧ ∀ packet ∈ further, packet.isValid = false ∧ ∃ rawType data, packet.payload = .undefined rawType data := by
  have hcropped := cropped_hear (frame.take count) (frame.drop count)
  rw [List.take_append_drop] at hcropped
  obtain ⟨messages, lost, hcropped⟩ := hcropped
  obtain ⟨later, hframe⟩ := hcropped.initial
  cases hrun : Run.collect (take now) (decoder.expire now).1 messages with
  | mk after kept =>
    obtain ⟨further, hlost, hlength, hinvalid⟩ := collect_lost now after hcropped.truncated
    have hpart : decoder.decode now (frame.take count) = (after, kept ++ further) := by
      rw [decode_eq_collect, hcropped.heard, Run.collect_append, hrun, hlost]
    have hkept : kept <+: (decoder.decode now frame).2 := by
      rw [decode_eq_collect, ← hframe, Run.collect_append, hrun]
      exact List.prefix_append _ _
    rw [hpart]
    exact ⟨messages, lost, kept, further, hcropped, hrun, rfl, hkept, hlength, hinvalid⟩

-- a first part that has lost its last byte opens nothing
example :
    let frame := canPart 5 0 .first [1, 2, 3, 4]
    let part := frame.take (frame.length - 1)
    ((({} : Decoder).decode 0 frame).1.pendingCount, (({} : Decoder).decode 0 part).1.pendingCount) = (1, 0)
      ∧ (({} : Decoder).decode 0 part).2.map Packet.isValid = [false] := by
  decide +kernel

end Decoder

end CaptureProtocol
