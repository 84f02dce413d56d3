import CaptureProtocol.Proofs.UncheckedReading
import Mathlib

/-!
# A decoder that does not look before it reads

The decoder once more, with unchecked steps: the headers, the split of a body, the split of the bytes of a message that
is cut short, and the payloads.  Its loop over the messages of a frame is cut off after a number of turns, so that it is
part of what is proved that the loop ends.

* `FrameHeader.scan`, `MessageHeader.scan`, `Piece.scan` — the headers and the messages of a frame; `Piece.scan_cases`:
  what comes next in a frame;
* `Decoder.turn` — one turn of the loop; `Turn.Progresses`: what a turn takes and gives; `turn_progresses`;
* `Decoder.sweep`, `Decoder.scan` — the loop and the decoder; `sweep_eq_collect`;
* `Splits.length_le`, `Run.length_collect_le` — the number of messages, and of the packets that they can give;
* `Decoder.scan_decodes` — on any bytes and in any state the decoder ends without an overrun.
-/

namespace CaptureProtocol

open Scanner

/-! ### Headers and messages -/

/-- Scans a frame header after one check of the length. -/
def FrameHeader.scan : Scanner FrameHeader := do
  need size
  let version ← u8
  advance 1
  let deviceId ← u16
  let messageType ← u8
  let streamId ← u8
  let sequence ← u16
  return { version, deviceId, messageType := .ofRaw messageType, streamId, sequence }

theorem FrameHeader.guards_scan : Guards 0 scan read :=
  (fixed_u8.bind fun _ => (fixed_advance 1).bind fun _ => fixed_u16.bind fun _ => fixed_u8.bind fun _ =>
    fixed_u8.bind fun _ => fixed_u16.bind fun _ => guards_pure _).need

/-- Scans a message header after one check of the length. -/
def MessageHeader.scan : Scanner MessageHeader := do
  need size
  let timestamp ← u64
  let interfaceId ← u32
  let flags ← u8
  let payloadType ← u8
  let payloadLength ← u16
  return { timestamp, interfaceId, flags := ⟨flags⟩, payloadType, payloadLength }

theorem MessageHeader.guards_scan : Guards 0 scan read :=
  (fixed_u64.bind fun _ => fixed_u32.bind fun _ => fixed_u8.bind fun _ => fixed_u8.bind fun _ =>
    fixed_u16.bind fun _ => guards_pure _).need

/-- What is left after a header. -/
theorem Reader.Takes.length_rest {α : Type} {count : Nat} {reader : Reader α} (h : Reader.Takes count reader)
    {bytes rest : Bytes} {value : α} (hread : reader bytes = some (value, rest)) :
    bytes.length = count + rest.length := by
  have hlong : count ≤ bytes.length := by
    by_contra hshort
    rw [h.fails bytes (Nat.lt_of_not_le hshort)] at hread
    cases hread
  obtain ⟨_, hfound⟩ := h.succeeds bytes hlong
  rw [hread] at hfound
  cases hfound
  rw [List.length_drop]
  omega

/-- Whether the frame may go on after a piece. -/
def Piece.isWhole : Piece → Bool
  | .whole _ => true
  | .truncated _ => false

/-- Scans the next message, unless no header fits any more or only zero bytes are left.  A message that is cut short
takes all that is left. -/
def Piece.scan : Scanner (Option Piece) := do
  if (← remaining) < MessageHeader.size then
    return none
  if (← get).allZero then
    return none
  let some header ← attempt MessageHeader.scan | return none
  if (← remaining) < header.payloadLength.toNat then
    return some (.truncated ⟨header, ← split (← remaining)⟩)
  return some (.whole ⟨header, ← split header.payloadLength.toNat⟩)

theorem Piece.scan_of_short {bytes : Bytes} (h : bytes.length < MessageHeader.size) :
    Piece.scan bytes = .found (none, bytes) := by
  rw [Piece.scan, remaining_bind, if_pos h]
  rfl

theorem Piece.scan_of_allZero {bytes : Bytes} (h : bytes.allZero = true) :
    Piece.scan bytes = .found (none, bytes) := by
  by_cases hshort : bytes.length < MessageHeader.size
  · exact scan_of_short hshort
  · rw [Piece.scan, remaining_bind, if_neg hshort, get_bind, if_pos h]
    rfl

/-- After a message header, the length that it announces is compared with what is left. -/
theorem Piece.scan_of_read {bytes rest : Bytes} {header : MessageHeader} (hzero : bytes.allZero = false)
    (hread : MessageHeader.read bytes = some (header, rest)) :
    Piece.scan bytes = .found (if rest.length < header.payloadLength.toNat then
        (some (.truncated ⟨header, rest⟩), [])
      else
        (some (.whole ⟨header, rest.take header.payloadLength.toNat⟩), rest.drop header.payloadLength.toNat)) := by
  have hlong : ¬ bytes.length < MessageHeader.size := by
    rw [← MessageHeader.takes_read.eq_none_iff, hread]
    exact Option.some_ne_none _
  rw [Piece.scan, remaining_bind, if_neg hlong, get_bind, if_neg (by rw [hzero]; decide), bind_apply,
    MessageHeader.guards_scan.attempt_of_some hread, Scan.found_bind]
  dsimp only
  rw [remaining_bind]
  split
  · rw [remaining_bind, split_bind le_rfl, List.take_length, List.drop_length]
    rfl
  · rename_i henough
    rw [split_bind (Nat.le_of_not_lt henough)]
    rfl

/-- What comes next in a frame: nothing that is a message, a message that is cut short, or a whole message. -/
theorem Piece.scan_cases (bytes : Bytes) :
    ((bytes.length < MessageHeader.size ∨ bytes.allZero = true) ∧ Piece.scan bytes = .found (none, bytes)
      ∧ cut bytes = [])
    ∨ (∃ message, MessageHeader.size ≤ bytes.length ∧ Piece.scan bytes = .found (some (.truncated message), [])
      ∧ cut bytes = [.truncated message])
    ∨ ∃ message rest, MessageHeader.size + rest.length ≤ bytes.length
      ∧ Piece.scan bytes = .found (some (.whole message), rest) ∧ cut bytes = .whole message :: cut rest := by
  have hsplits := splits_cut bytes
  generalize hcut : cut bytes = pieces at hsplits
  cases hsplits with
  | short hshort => exact .inl ⟨.inl hshort, scan_of_short hshort, rfl⟩
  | padding hzero => exact .inl ⟨.inr hzero, scan_of_allZero hzero, rfl⟩
  | @truncated _ rest header hzero hread hlength =>
    have hbytes := MessageHeader.takes_read.length_rest hread
    refine .inr (.inl ⟨⟨header, rest⟩, by omega, ?_, rfl⟩)
    rw [scan_of_read hzero hread, if_pos hlength]
  | @whole _ body rest header later hzero hread hlength hrest =>
    have hbytes := MessageHeader.takes_read.length_rest hread
    rw [List.length_append] at hbytes
    refine .inr (.inr ⟨⟨header, body⟩, rest, by omega, ?_, by rw [splits_iff.mp hrest]⟩)
    rw [scan_of_read hzero hread, if_neg (by rw [List.length_append]; omega), ← hlength, List.take_left,
      List.drop_left]

/-! ### The loop -/

/-- What a turn of the loop over the messages of a frame gives. -/
structure Turn where
  decoder : Decoder
  packets : List Packet
  /-- Whether the loop goes on with what is left. -/
  goesOn : Bool
deriving DecidableEq, Inhabited, Repr

/-- A turn takes at least as many bytes as a message header and gives at most one packet, or it takes nothing, gives
nothing and ends the loop, where no message header fits any more or only zero bytes are left. -/
def Turn.Progresses (turn : Turn) (bytes rest : Bytes) : Prop :=
  (MessageHeader.size + rest.length ≤ bytes.length ∧ turn.packets.length ≤ 1)
  ∨ (rest = bytes ∧ turn.packets = [] ∧ turn.goesOn = false
    ∧ (bytes.length < MessageHeader.size ∨ bytes.allZero = true))

namespace Decoder

/-- Takes a part after the first, and scans the payload that the last part completes. -/
def scanProceed (frame : FrameHeader) (message : Message) (isLast : Bool) (decoder : Decoder) :
    Scan (Decoder × List Packet) :=
  let key := keyOf frame message.header
  match decoder.pending? key with
  | none => .found (decoder, [])
  | some pending =>
    if pending.next = frame.sequence then
      let pending := pending.append message.body
      if isLast then do
        let payload ← Payload.scan pending.frame.messageType pending.header.payloadType pending.body
        return (decoder.forget key, [packetOf pending.frame pending.header payload])
      else .found (decoder.hold key pending, [])
    else .found (decoder.forget key, [])

/-- Takes a piece of a frame, and scans the payload that it completes. -/
def scanAccept (now : Nat) (frame : FrameHeader) (decoder : Decoder) : Piece → Scan (Decoder × List Packet)
  | .truncated message =>
    .found (decoder, [packetOf frame message.header (.undefined message.header.payloadType message.body)])
  | .whole message =>
    match message.header.flags.segmentation with
    | .unsegmented => do
      let payload ← Payload.scan frame.messageType message.header.payloadType message.body
      return (decoder, [packetOf frame message.header payload])
    | .first => .found (decoder.hold (keyOf frame message.header) (.start now frame message), [])
    | .intermediary => decoder.scanProceed frame message false
    | .last => decoder.scanProceed frame message true

theorem scanProceed_eq (frame : FrameHeader) (message : Message) (isLast : Bool) (decoder : Decoder) :
    decoder.scanProceed frame message isLast = .found (decoder.proceed frame message isLast) := by
  unfold scanProceed proceed
  dsimp only
  cases decoder.pending? (keyOf frame message.header) with
  | none => rfl
  | some pending =>
    dsimp only
    split
    · cases isLast with
      | false => rfl
      | true =>
        rw [if_pos rfl, if_pos rfl, Payload.scan_eq_parse]
        rfl
    · rfl

theorem scanAccept_eq (now : Nat) (frame : FrameHeader) (decoder : Decoder) (piece : Piece) :
    decoder.scanAccept now frame piece = .found (accept now frame decoder piece) := by
  cases piece with
  | truncated message => rfl
  | whole message =>
    unfold scanAccept accept
    dsimp only
    cases message.header.flags.segmentation with
    | unsegmented =>
      dsimp only
      rw [Payload.scan_eq_parse]
      rfl
    | first => rfl
    | intermediary => exact scanProceed_eq frame message false decoder
    | last => exact scanProceed_eq frame message true decoder

/-- One turn of the loop: the next message, if there is one, and what it completes. -/
def turn (now : Nat) (frame : FrameHeader) (decoder : Decoder) : Scanner Turn := do
  match ← Piece.scan with
  | none => return ⟨decoder, [], false⟩
  | some piece =>
    let (decoder, packets) ← decoder.scanAccept now frame piece
    return ⟨decoder, packets, piece.isWhole⟩

theorem turn_of_none {now : Nat} {frame : FrameHeader} {decoder : Decoder} {bytes rest : Bytes}
    (h : Piece.scan bytes = .found (none, rest)) :
    decoder.turn now frame bytes = .found (⟨decoder, [], false⟩, rest) := by
  rw [turn, bind_apply, h]
  rfl

theorem turn_of_some {now : Nat} {frame : FrameHeader} {decoder : Decoder} {bytes rest : Bytes} {piece : Piece}
    (h : Piece.scan bytes = .found (some piece, rest)) :
    decoder.turn now frame bytes = .found (⟨(accept now frame decoder piece).1, (accept now frame decoder piece).2,
      piece.isWhole⟩, rest) := by
  rw [turn, bind_apply, h, Scan.found_bind]
  dsimp only
  rw [scanAccept_eq]
  rfl

theorem length_accept_le (now : Nat) (frame : FrameHeader) (decoder : Decoder) (piece : Piece) :
    (accept now frame decoder piece).2.length ≤ 1 := by
  obtain ⟨after, packets, haccept, houtcome⟩ := accept_outcome now frame decoder piece
  rw [haccept]
  cases houtcome <;> simp

/-- No turn overruns, and every turn makes progress or ends the loop. -/
theorem turn_progresses (now : Nat) (frame : FrameHeader) (decoder : Decoder) (bytes : Bytes) :
    ∃ turn rest, decoder.turn now frame bytes = .found (turn, rest) ∧ turn.Progresses bytes rest := by
  obtain ⟨hend, hscan, -⟩ | ⟨message, hlength, hscan, -⟩ | ⟨message, rest, hlength, hscan, -⟩ := Piece.scan_cases bytes
  · exact ⟨_, _, turn_of_none hscan, .inr ⟨rfl, rfl, rfl, hend⟩⟩
  · exact ⟨_, _, turn_of_some hscan, .inl ⟨hlength, length_accept_le ..⟩⟩
  · exact ⟨_, _, turn_of_some hscan, .inl ⟨hlength, length_accept_le ..⟩⟩

/-- The loop over the messages of a frame, unless it takes more turns than it is given. -/
def sweep (now : Nat) (frame : FrameHeader) : Nat → Decoder → Bytes → Option (Scan (Decoder × List Packet))
  | 0, _, _ => none
  | turns + 1, decoder, bytes =>
    match decoder.turn now frame bytes with
    | .overrun => some .overrun
    | .refused => some .refused
    | .found (turn, rest) =>
      if turn.goesOn then
        (sweep now frame turns turn.decoder rest).map fun scan => do
          let (decoder, packets) ← scan
          return (decoder, turn.packets ++ packets)
      else some (.found (turn.decoder, turn.packets))

/-- One turn for each message header that fits, and one to see the end: the loop ends without an overrun, and has taken
the pieces of the frame in order. -/
theorem sweep_eq_collect (now : Nat) (frame : FrameHeader) {turns : Nat} (decoder : Decoder) {bytes : Bytes}
    (hturns : bytes.length / MessageHeader.size < turns) :
    decoder.sweep now frame turns bytes = some (.found (Run.collect (accept now frame) decoder (cut bytes))) := by
  induction turns generalizing decoder bytes with
  | zero => exact absurd hturns (Nat.not_lt_zero _)
  | succ turns ih =>
    rw [sweep]
    obtain ⟨-, hscan, hcut⟩ | ⟨message, -, hscan, hcut⟩ | ⟨message, rest, hlength, hscan, hcut⟩ :=
      Piece.scan_cases bytes
    · rw [turn_of_none hscan, hcut]
      rfl
    · rw [turn_of_some hscan, hcut, Run.collect_cons, Run.collect_nil, List.append_nil]
      rfl
    · have hrest : rest.length / MessageHeader.size < turns := by
        rw [Nat.div_lt_iff_lt_mul (by decide)] at hturns ⊢
        rw [Nat.succ_mul] at hturns
        omega
      have hwhole : (Piece.whole message).isWhole = true := rfl
      rw [turn_of_some hscan, hcut, Run.collect_cons]
      dsimp only
      rw [if_pos hwhole, ih _ hrest]
      rfl

/-- Scans a frame: forgets what is stale, then takes the messages of the frame one after the other. -/
def scan (now turns : Nat) (decoder : Decoder) (bytes : Bytes) : Option (Scan (Decoder × List Packet)) :=
  let decoder := (decoder.expire now).1
  match attempt FrameHeader.scan bytes with
  | .overrun => some .overrun
  | .refused => some .refused
  | .found (none, _) => some (.found (decoder, []))
  | .found (some frame, rest) => decoder.sweep now frame turns rest

end Decoder

/-! ### How many packets there can be -/

/-- A frame has no more messages than message headers fit. -/
theorem Splits.length_le {bytes : Bytes} {pieces : List Piece} (h : Splits bytes pieces) :
    pieces.length * MessageHeader.size ≤ bytes.length := by
  induction h with
  | short | padding =>
    rw [List.length_nil, Nat.zero_mul]
    exact Nat.zero_le _
  | whole _ hread _ _ ih =>
    have hbytes := MessageHeader.takes_read.length_rest hread
    rw [List.length_append] at hbytes
    rw [List.length_cons, Nat.succ_mul]
    omega
  | truncated _ hread _ =>
    have hbytes := MessageHeader.takes_read.length_rest hread
    rw [List.length_singleton]
    omega

theorem Run.length_collect_le {σ α β : Type} {step : σ → α → σ × List β}
    (hstep : ∀ state input, (step state input).2.length ≤ 1) (state : σ) (inputs : List α) :
    (collect step state inputs).2.length ≤ inputs.length := by
  induction inputs generalizing state with
  | nil => exact Nat.le_refl _
  | cons input inputs ih =>
    have hfirst := hstep state input
    have hlater := ih (step state input).1
    rw [collect_cons, List.length_append, List.length_cons]
    omega

namespace Decoder

/-- The number of bytes after a frame header says how many turns are enough. -/
theorem scan_eq_decode (decoder : Decoder) (now : Nat) {turns : Nat} {bytes : Bytes}
    (hturns : (bytes.length - FrameHeader.size) / MessageHeader.size < turns) :
    decoder.scan now turns bytes = some (.found (decoder.decode now bytes)) := by
  cases hread : FrameHeader.read bytes with
  | none => rw [scan, FrameHeader.guards_scan.attempt_of_none hread, decode_of_short hread]
  | some found =>
    obtain ⟨frame, rest⟩ := found
    rw [FrameHeader.takes_read.length_rest hread, Nat.add_sub_cancel_left] at hturns
    rw [scan, FrameHeader.guards_scan.attempt_of_some hread, decode_of_read hread]
    exact sweep_eq_collect now frame _ hturns

theorem length_decode_le (decoder : Decoder) (now : Nat) (bytes : Bytes) :
    (decoder.decode now bytes).2.length ≤ (bytes.length - FrameHeader.size) / MessageHeader.size := by
  cases hread : FrameHeader.read bytes with
  | none =>
    rw [decode_of_short hread]
    exact Nat.zero_le _
  | some found =>
    obtain ⟨frame, rest⟩ := found
    rw [decode_of_read hread, FrameHeader.takes_read.length_rest hread, Nat.add_sub_cancel_left]
    calc (Run.collect (accept now frame) (decoder.expire now).1 (cut rest)).2.length
        ≤ (cut rest).length := Run.length_collect_le (length_accept_le now frame) _ _
      _ ≤ rest.length / MessageHeader.size := (Nat.le_div_iff_mul_le (by decide)).mpr (splits_cut rest).length_le

/-- Whatever the bytes and whatever is pending, the decoder ends and never asks for more bytes than are left.  Every
turn of its loop makes progress or ends it, no body overruns the reader of a payload, and there are at most as many
packets as message headers fit behind the frame header. -/
theorem scan_decodes (decoder : Decoder) (now : Nat) (bytes : Bytes) :
    (∀ turns, (bytes.length - FrameHeader.size) / MessageHeader.size < turns →
      decoder.scan now turns bytes = some (.found (decoder.decode now bytes)))
    ∧ (∀ (held : Decoder) (frame : FrameHeader) (left : Bytes), ∃ turn rest,
      held.turn now frame left = .found (turn, rest) ∧ turn.Progresses left rest)
    ∧ (∀ (kind : MessageType) (raw : UInt8) (body : Bytes),
      Payload.scan kind raw body = .found (.parse kind raw body))
    ∧ (decoder.decode now bytes).2.length ≤ (bytes.length - FrameHeader.size) / MessageHeader.size := by
  refine ⟨fun turns hturns => ?_, fun held frame left => ?_, fun kind raw body => ?_, ?_⟩
  · exact decoder.scan_eq_decode now hturns
  · exact turn_progresses now frame held left
  · exact Payload.scan_eq_parse kind raw body
  · exact decoder.length_decode_le now bytes

/-- A frame that ends after three of the seven bytes that its message announces. -/
def cutShortFrame : Bytes :=
  FrameHeader.write ⟨protocolVersion, 1, .data, 0, 0⟩ ++ MessageHeader.write ⟨0, 1, ⟨0⟩, 1, 7⟩ ++ [1, 2, 3]

/-- The two turns that the frame leaves room for are enough, and give the bytes that are there. -/
theorem scan_decodes_cutShortFrame :
    ({} : Decoder).scan 0 2 cutShortFrame = some (.found (({} : Decoder).decode 0 cutShortFrame))
      ∧ (({} : Decoder).decode 0 cutShortFrame).2.map (·.payload) = [.undefined 1 [1, 2, 3]] := by
  obtain ⟨hends, -⟩ := scan_decodes {} 0 cutShortFrame
  have hscan := hends 2 (by decide)
  have hfound : ({} : Decoder).scan 0 2 cutShortFrame = some (.found ({}, [packetOf
      ⟨protocolVersion, 1, .data, 0, 0⟩ ⟨0, 1, ⟨0⟩, 1, 7⟩ (.undefined 1 [1, 2, 3])])) := by decide +kernel
  refine ⟨hscan, ?_⟩
  rw [hscan, Option.some.injEq, Scan.found.injEq] at hfound
  rw [hfound]
  rfl

end Decoder

end CaptureProtocol
