import CaptureProtocol.Frame.Encoder
import CaptureProtocol.Frame.Pieces
import CaptureProtocol.Proofs.PayloadCodec
import Mathlib

/-!
# Reading written frames

A frame is cut into exactly the messages that were written into it, however many zero bytes follow.

* `cut_of_read_eq_none`, `cut_of_allZero`, `cut_whole`, `cut_truncated` — the four ways in which a cut goes on;
* `Message.WellFormed` — a message that announces its body and names a payload type;
* `cut_write` — the messages of a frame are cut apart again;
* `FrameHeader.asRead`, `FrameHeader.read_write` — a frame header is read back up to the name of its kind;
* `read_writeFrame` — the header of a written frame is read back, and its messages come out of the rest.
-/

namespace CaptureProtocol

/-! ### One step of a cut -/

theorem cut_of_read_eq_none {bytes : Bytes} (h : MessageHeader.read bytes = none) : cut bytes = [] := by
  unfold cut
  split
  · rfl
  · rename_i hread
    rw [hread] at h
    cases h

theorem cut_of_allZero {bytes : Bytes} (h : bytes.allZero = true) : cut bytes = [] := by
  unfold cut
  split
  · rfl
  · rw [if_pos h]

/-- A message whose body is complete is cut off. -/
theorem cut_whole {header : MessageHeader} {body rest : Bytes}
    (hlength : body.length = header.payloadLength.toNat)
    (hzero : (header.write ++ (body ++ rest)).allZero = false) :
    cut (header.write ++ (body ++ rest)) = .whole ⟨header, body⟩ :: cut rest := by
  have hread := MessageHeader.read_write_append header (body ++ rest)
  rw [cut]
  split
  · rename_i hnone
    rw [hread] at hnone
    cases hnone
  · rename_i found left hfound
    rw [hread, Option.some.injEq, Prod.mk.injEq] at hfound
    obtain ⟨rfl, rfl⟩ := hfound
    rw [if_neg (by rw [hzero]; decide)]
    simp only [← hlength, List.take_left, List.drop_left, if_pos]

/-- A message whose body is cut short ends the frame. -/
theorem cut_truncated {header : MessageHeader} {rest : Bytes} (hlength : rest.length < header.payloadLength.toNat)
    (hzero : (header.write ++ rest).allZero = false) :
    cut (header.write ++ rest) = [.truncated ⟨header, rest⟩] := by
  have hread := MessageHeader.read_write_append header rest
  rw [cut]
  split
  · rename_i hnone
    rw [hread] at hnone
    cases hnone
  · rename_i found left hfound
    rw [hread, Option.some.injEq, Prod.mk.injEq] at hfound
    obtain ⟨rfl, rfl⟩ := hfound
    rw [if_neg (by rw [hzero]; decide)]
    dsimp only
    rw [if_neg]
    rw [List.length_take]
    omega

/-! ### Messages that were written -/

/-- A message that announces its body and names a payload type. -/
structure Message.WellFormed (message : Message) : Prop where
  length : message.body.length = message.header.payloadLength.toNat
  /-- The byte of the payload type is not 0, so the message does not look like padding. -/
  type : message.header.payloadType ≠ 0

theorem allZero_append (front rest : Bytes) : Bytes.allZero (front ++ rest) = (front.allZero && rest.allZero) :=
  List.all_append

theorem allZero_zeros (count : Nat) : Bytes.allZero (List.replicate count 0) = true := by
  simp [Bytes.allZero]

/-- A header that names a payload type is no padding. -/
theorem MessageHeader.not_allZero_write {header : MessageHeader} (h : header.payloadType ≠ 0) :
    header.write.allZero = false := by
  simp [write, Bytes.allZero, h]

/-- What was written into a frame is cut apart again, and zero bytes after it are padding. -/
theorem cut_write (messages : List Message) (padding : Nat) (hmessages : ∀ m ∈ messages, m.WellFormed) :
    cut (messages.flatMap Message.write ++ List.replicate padding 0) = messages.map Piece.whole := by
  induction messages with
  | nil =>
    rw [List.flatMap_nil, List.nil_append, List.map_nil]
    exact cut_of_allZero (allZero_zeros padding)
  | cons message messages ih =>
    have hmessage := hmessages message List.mem_cons_self
    rw [List.flatMap_cons, List.append_assoc, Message.write, List.append_assoc, cut_whole hmessage.length,
      ih fun m hm => hmessages m (List.mem_cons_of_mem _ hm), List.map_cons]
    rw [allZero_append, MessageHeader.not_allZero_write hmessage.type, Bool.false_and]

/-! ### Frames that were written -/

/-- A header as it is read: the byte of its kind is read as the kind that this byte names. -/
def FrameHeader.asRead (header : FrameHeader) : FrameHeader :=
  { header with messageType := .ofRaw header.messageType.toRaw }

/-- A header of any kind is read back up to the name of its kind. -/
theorem FrameHeader.read_write (header : FrameHeader) (rest : Bytes) :
    read (header.write ++ rest) = some (header.asRead, rest) := by
  simp [asRead, read, write, Reader.bind_apply, Reader.map_apply, Reader.u8, Reader.skip, Reader.take_eq]

/-- A message kind that is transmitted unambiguously. -/
theorem MessageType.ofRaw_toRaw_of_carries {type : PayloadType} {kind : MessageType}
    (h : type.messageType? = some kind) : MessageType.ofRaw kind.toRaw = kind := by
  cases type <;> simp [PayloadType.messageType?] at h <;> subst h <;> rfl

/-- A header whose kind is transmitted unambiguously is read back. -/
theorem FrameHeader.asRead_of_kind {header : FrameHeader}
    (h : MessageType.ofRaw header.messageType.toRaw = header.messageType) : header.asRead = header :=
  congrArg (fun kind => { header with messageType := kind }) h

/-- A frame is read as its header and, before its padding, its messages. -/
theorem Encoder.read_writeFrame (encoder : Encoder) (limits : FrameLimits) (index extra : Nat) (draft : FrameDraft) :
    FrameHeader.read (encoder.writeFrame limits index draft ++ List.replicate extra 0)
      = some ((encoder.frameHeader draft.messageType index).asRead,
          draft.messages.flatMap Message.write ++ List.replicate (limits.min - draft.size + extra) 0) := by
  rw [writeFrame, List.append_assoc, List.append_assoc, List.replicate_append_replicate]
  exact FrameHeader.read_write _ _

/-- A frame of a stream with one part of a CAN frame. -/
def canPart (stream : UInt8) (sequence : UInt16) (position : Segmentation) (part : Bytes) : Bytes :=
  (FrameHeader.mk 1 7 .data stream sequence).write
    ++ (Message.ofPacket (.ofPayload 2 20 (.can (.ofIdentifier 0x123 [1, 2, 3]))) position part).write

end CaptureProtocol
