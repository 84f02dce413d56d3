import CaptureProtocol.Proofs.FrameReading
import CaptureProtocol.Proofs.Reception
import Mathlib

/-!
# The grammar of received frames

Any bytes are a frame: a header of eight bytes, then messages, then bytes that are no message.  The grammar is
stated as a relation, apart from the function that cuts frames, and the two agree.

* `Reader.Takes` — a reader that takes a fixed number of bytes and fails only when there are fewer;
* `Splits` — the messages after a frame header; `splits_iff`: they are what `cut` gives;
* `Heard` — a piece of a frame with the frame's header; `Reads`: what is heard in a list of frames; `reads_iff`;
* `hear_written` — a written frame is heard message by message;
* `Decoder.decode_eq_collect` — a decoder takes a frame piece by piece.
-/

namespace CaptureProtocol

/-! ### Headers of a fixed size -/

namespace Reader

/-- The reader takes `count` bytes, and fails only when there are fewer. -/
structure Takes {α : Type} (count : Nat) (reader : Reader α) : Prop where
  succeeds : ∀ bytes : Bytes, count ≤ bytes.length → ∃ value, reader bytes = some (value, bytes.drop count)
  fails : ∀ bytes : Bytes, bytes.length < count → reader bytes = none

variable {α β : Type}

theorem takes_pure (value : α) : Takes 0 (pure value : Reader α) where
  succeeds bytes _ := ⟨value, by rw [List.drop_zero]; rfl⟩
  fails _ h := absurd h (Nat.not_lt_zero _)

theorem takes_u8 : Takes 1 u8 where
  succeeds bytes h := by
    cases bytes with
    | nil => exact absurd h (by decide)
    | cons byte rest => exact ⟨byte, rfl⟩
  fails bytes h := by
    rw [List.eq_nil_of_length_eq_zero (Nat.lt_one_iff.mp h)]
    rfl

theorem takes_take (count : Nat) : Takes count (take count) where
  succeeds bytes h := ⟨bytes.take count, by rw [take_eq, if_pos h]⟩
  fails bytes h := by rw [take_eq, if_neg (Nat.not_le_of_lt h)]

/-- Readers one after the other take their bytes one after the other. -/
theorem Takes.bind {first second : Nat} {reader : Reader α} {next : α → Reader β} (h : Takes first reader)
    (hnext : ∀ value, Takes second (next value)) : Takes (first + second) (reader >>= next) where
  succeeds bytes hlength := by
    obtain ⟨value, hvalue⟩ := h.succeeds bytes (by omega)
    obtain ⟨result, hresult⟩ := (hnext value).succeeds (bytes.drop first) (by rw [List.length_drop]; omega)
    refine ⟨result, ?_⟩
    rw [bind_apply, hvalue, Option.bind_some, hresult, List.drop_drop]
  fails bytes hlength := by
    rw [bind_apply]
    by_cases hfirst : bytes.length < first
    · rw [h.fails bytes hfirst]
      rfl
    · obtain ⟨value, hvalue⟩ := h.succeeds bytes (by omega)
      rw [hvalue, Option.bind_some]
      exact (hnext value).fails _ (by rw [List.length_drop]; omega)

theorem takes_u16 : Takes 2 u16 := (takes_take 2).bind fun _ => takes_pure _

theorem takes_u32 : Takes 4 u32 := (takes_take 4).bind fun _ => takes_pure _

theorem takes_u64 : Takes 8 u64 := (takes_take 8).bind fun _ => takes_pure _

theorem takes_skip (count : Nat) : Takes count (skip count) := (takes_take count).bind fun _ => takes_pure _

theorem Takes.eq_none_iff {count : Nat} {reader : Reader α} (h : Takes count reader) {bytes : Bytes} :
    reader bytes = none ↔ bytes.length < count := by
  refine ⟨fun hnone => ?_, h.fails bytes⟩
  by_contra hlong
  obtain ⟨value, hvalue⟩ := h.succeeds bytes (Nat.le_of_not_lt hlong)
  rw [hnone] at hvalue
  cases hvalue

end Reader

open Reader in
theorem FrameHeader.takes_read : Takes FrameHeader.size FrameHeader.read :=
  takes_u8.bind fun _ => (takes_skip 1).bind fun _ => takes_u16.bind fun _ => takes_u8.bind fun _ =>
    takes_u8.bind fun _ => takes_u16.bind fun _ => takes_pure _

open Reader in
theorem MessageHeader.takes_read : Takes MessageHeader.size MessageHeader.read :=
  takes_u64.bind fun _ => takes_u32.bind fun _ => takes_u8.bind fun _ => takes_u8.bind fun _ =>
    takes_u16.bind fun _ => takes_pure _

/-! ### The messages of a frame -/

/-- The bytes after a frame header hold these messages.  They end where no message header fits any more, where only
zero bytes are left, or in a message that is cut short. -/
inductive Splits : Bytes → List Piece → Prop
  | short {bytes : Bytes} (hshort : bytes.length < MessageHeader.size) : Splits bytes []
  | padding {bytes : Bytes} (hzero : bytes.allZero = true) : Splits bytes []
  | whole {bytes body rest : Bytes} {header : MessageHeader} {pieces : List Piece} (hzero : bytes.allZero = false)
      (hread : MessageHeader.read bytes = some (header, body ++ rest))
      (hlength : body.length = header.payloadLength.toNat) (hrest : Splits rest pieces) :
      Splits bytes (.whole ⟨header, body⟩ :: pieces)
  | truncated {bytes rest : Bytes} {header : MessageHeader} (hzero : bytes.allZero = false)
      (hread : MessageHeader.read bytes = some (header, rest)) (hlength : rest.length < header.payloadLength.toNat) :
      Splits bytes [.truncated ⟨header, rest⟩]

theorem splits_cut (bytes : Bytes) : Splits bytes (cut bytes) := by
  induction bytes using cut.induct with
  | case1 bytes hread =>
    rw [cut_of_read_eq_none hread]
    exact .short (MessageHeader.takes_read.eq_none_iff.mp hread)
  | case2 bytes header rest hread hzero =>
    rw [cut_of_allZero hzero]
    exact .padding hzero
  | case3 bytes header rest hread hzero body hlength ih =>
    have hsplit : rest = body ++ rest.drop header.payloadLength.toNat := (List.take_append_drop _ _).symm
    have hnonzero : bytes.allZero = false := Bool.eq_false_of_not_eq_true hzero
    have hbytes := MessageHeader.read_eq_some hread
    rw [hsplit] at hbytes hread
    have hcut : cut (header.write ++ (body ++ rest.drop header.payloadLength.toNat))
        = .whole ⟨header, body⟩ :: cut (rest.drop header.payloadLength.toNat) :=
      cut_whole hlength (by rw [← hbytes]; exact hnonzero)
    rw [← hbytes] at hcut
    rw [hcut]
    exact .whole hnonzero hread hlength ih
  | case4 bytes header rest hread hzero body hlength =>
    have hnonzero : bytes.allZero = false := Bool.eq_false_of_not_eq_true hzero
    have hshort : rest.length < header.payloadLength.toNat := by
      simp only [body, List.length_take] at hlength
      omega
    have hbytes := MessageHeader.read_eq_some hread
    have hcut := cut_truncated hshort (by rw [← hbytes]; exact hnonzero)
    rw [← hbytes] at hcut
    rw [hcut]
    exact .truncated hnonzero hread hshort

/-- The grammar is unambiguous: it allows what `cut` gives and nothing else. -/
theorem splits_iff {bytes : Bytes} {pieces : List Piece} : Splits bytes pieces ↔ cut bytes = pieces := by
  constructor
  · intro h
    induction h with
    | short hshort => exact cut_of_read_eq_none (MessageHeader.takes_read.fails _ hshort)
    | padding hzero => exact cut_of_allZero hzero
    | @whole bytes body rest header pieces hzero hread hlength _ ih =>
      rw [MessageHeader.read_eq_some hread] at hzero ⊢
      rw [cut_whole hlength hzero, ih]
    | truncated hzero hread hlength =>
      rw [MessageHeader.read_eq_some hread] at hzero ⊢
      exact cut_truncated hlength hzero
  · rintro rfl
    exact splits_cut bytes

/-! ### What is heard -/

/-- A piece of a frame with the header of the frame. -/
structure Heard where
  frame : FrameHeader
  piece : Piece
deriving DecidableEq, Inhabited, Repr

/-- What is heard in a list of frames.  Frames without a whole header are silent. -/
inductive Reads : List Bytes → List Heard → Prop
  | nil : Reads [] []
  | short {bytes : Bytes} {frames : List Bytes} {heard : List Heard} (hshort : bytes.length < FrameHeader.size)
      (hrest : Reads frames heard) : Reads (bytes :: frames) heard
  | frame {bytes rest : Bytes} {frames : List Bytes} {header : FrameHeader} {pieces : List Piece}
      {heard : List Heard} (hread : FrameHeader.read bytes = some (header, rest)) (hsplits : Splits rest pieces)
      (hrest : Reads frames heard) : Reads (bytes :: frames) (pieces.map (Heard.mk header) ++ heard)

/-- What is heard in a frame. -/
def hear (bytes : Bytes) : List Heard :=
  match FrameHeader.read bytes with
  | none => []
  | some (frame, rest) => (cut rest).map (Heard.mk frame)

theorem hear_of_short {bytes : Bytes} (h : FrameHeader.read bytes = none) : hear bytes = [] := by
  simp only [hear, h]

theorem hear_of_read {bytes rest : Bytes} {frame : FrameHeader} (h : FrameHeader.read bytes = some (frame, rest)) :
    hear bytes = (cut rest).map (Heard.mk frame) := by
  simp only [hear, h]

/-- What is heard in a frame that is written of a header, messages and padding. -/
theorem hear_written (header : FrameHeader) {messages : List Message} (hmessages : ∀ m ∈ messages, m.WellFormed)
    (padding : Nat) :
    hear (header.write ++ (messages.flatMap Message.write ++ List.replicate padding 0))
      = messages.map fun message => ⟨header.asRead, .whole message⟩ := by
  rw [hear_of_read (FrameHeader.read_write header _), cut_write messages padding hmessages, List.map_map]
  rfl

theorem reads_hear (frames : List Bytes) : Reads frames (frames.flatMap hear) := by
  induction frames with
  | nil => exact .nil
  | cons bytes frames ih =>
    rw [List.flatMap_cons]
    cases hread : FrameHeader.read bytes with
    | none =>
      rw [hear_of_short hread]
      exact .short (FrameHeader.takes_read.eq_none_iff.mp hread) ih
    | some found =>
      rw [hear_of_read hread]
      exact .frame hread (splits_cut _) ih

/-- Every list of frames is heard in one way. -/
theorem reads_iff {frames : List Bytes} {heard : List Heard} : Reads frames heard ↔ frames.flatMap hear = heard := by
  constructor
  · intro h
    induction h with
    | nil => rfl
    | short hshort _ ih =>
      rw [List.flatMap_cons, hear_of_short (FrameHeader.takes_read.fails _ hshort), List.nil_append, ih]
    | frame hread hsplits _ ih => rw [List.flatMap_cons, hear_of_read hread, splits_iff.mp hsplits, ih]
  · rintro rfl
    exact reads_hear frames

namespace Decoder

/-- Takes what is heard. -/
def take (now : Nat) (decoder : Decoder) (heard : Heard) : Decoder × List Packet :=
  accept now heard.frame decoder heard.piece

/-- A frame is taken piece by piece, after what is stale was forgotten. -/
theorem decode_eq_collect (now : Nat) (decoder : Decoder) (bytes : Bytes) :
    decoder.decode now bytes = Run.collect (take now) (decoder.expire now).1 (hear bytes) := by
  cases hread : FrameHeader.read bytes with
  | none =>
    rw [decode_of_short hread, hear_of_short hread, Run.collect_nil]
  | some found =>
    rw [decode_of_read hread, hear_of_read hread, Run.collect_map]
    rfl

end Decoder

end CaptureProtocol
