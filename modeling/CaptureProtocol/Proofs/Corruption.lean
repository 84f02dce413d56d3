import CaptureProtocol.Proofs.FrameDiscipline
import CaptureProtocol.Proofs.PayloadGrammar
import CaptureProtocol.Proofs.Standalone
import Mathlib

/-!
# Bodies that are spoilt

The messages of a frame are told apart by the lengths that their headers announce, and padding by its zero bytes.  A
body has no say in either: whatever takes its place, even zero bytes, the other messages of a frame that was sent are
read as before.  A header that was sent names a payload type, so that it is never taken for padding.

* `Bytes.overwrite` — other bytes from a position on; `bodyStart`: where the body of a message of a frame starts;
* `overwrite_written` — another body in a written frame is another body of its message;
* `Message.WellFormed.withBody` — the message is still told apart from padding;
* `Encoder.written` — a frame that was sent is a header, its messages and padding;
* `Payload.rawType_parse` — a body never changes the byte of its type;
* `Decoder.decode_overwrite` — the packets before and after.
-/

namespace CaptureProtocol

/-! ### Another body in a frame -/

/-- Other bytes in the place of those from a position on. -/
def Bytes.overwrite (bytes : Bytes) (start : Nat) (replacement : Bytes) : Bytes :=
  bytes.take start ++ (replacement ++ bytes.drop (start + replacement.length))

/-- Where the body of a message starts in a frame with these messages. -/
def bodyStart (messages : List Message) (index : Nat) : Nat :=
  FrameHeader.size + ((messages.take index).map Message.size).sum + MessageHeader.size

/-- A message with another body under its header. -/
def Message.withBody (message : Message) (body : Bytes) : Message := { message with body }

/-- Only the bytes in the middle are replaced. -/
theorem Bytes.overwrite_append (front back : Bytes) {old replacement : Bytes} (h : replacement.length = old.length) :
    overwrite (front ++ (old ++ back)) front.length replacement = front ++ (replacement ++ back) := by
  rw [overwrite, List.take_left, List.drop_append, List.drop_eq_nil_of_le (Nat.le_add_right _ _), List.nil_append,
    Nat.add_sub_cancel_left, h, List.drop_left]

/-- Another body at its place in a written frame is another body of its message. -/
theorem overwrite_written (header : FrameHeader) (messages : List Message) (tail : Bytes) {index : Nat}
    (hindex : index < messages.length) {body : Bytes} (hlength : body.length = messages[index].body.length) :
    Bytes.overwrite (header.write ++ (messages.flatMap Message.write ++ tail)) (bodyStart messages index) body
      = header.write ++ ((messages.set index (messages[index].withBody body)).flatMap Message.write ++ tail) := by
  -- what stands before the body, and what stands after it
  let front := header.write ++ ((messages.take index).flatMap Message.write ++ messages[index].header.write)
  let back := (messages.drop (index + 1)).flatMap Message.write ++ tail
  have hsplit : messages = messages.take index ++ messages[index] :: messages.drop (index + 1) := by
    rw [List.getElem_cons_drop, List.take_append_drop]
  have hstart : bodyStart messages index = front.length := by
    simp only [front, bodyStart, List.length_append, List.length_flatMap, FrameHeader.write_length,
      MessageHeader.write_length, Message.write_length, Nat.add_assoc]
  have hframe : header.write ++ (messages.flatMap Message.write ++ tail)
      = front ++ (messages[index].body ++ back) := by
    conv_lhs => rw [hsplit]
    simp only [front, back, List.flatMap_append, List.flatMap_cons, Message.write, List.append_assoc]
  rw [hframe, hstart, Bytes.overwrite_append front back hlength, List.set_eq_take_append_cons_drop, if_pos hindex]
  simp only [front, back, List.flatMap_append, List.flatMap_cons, Message.write, Message.withBody, List.append_assoc]

/-- A message is still told apart from padding with another body of the same length. -/
theorem Message.WellFormed.withBody {message : Message} (h : message.WellFormed) {body : Bytes}
    (hlength : body.length = message.body.length) : (message.withBody body).WellFormed where
  length := hlength.trans h.length
  type := h.type

/-! ### Frames that were sent -/

/-- A frame that was sent is a header, messages that are told apart from padding, and padding. -/
theorem Encoder.written {encoder : Encoder} {limits : FrameLimits} {packets : List Packet} {frames : List Bytes}
    (h : (encoder.encode limits packets).2 = .ok frames) {frame : Bytes} (hframe : frame ∈ frames) :
    ∃ (header : FrameHeader) (messages : List Message) (padding : Nat), (∀ m ∈ messages, m.WellFormed)
      ∧ frame = header.write ++ (messages.flatMap Message.write ++ List.replicate padding 0) := by
  obtain ⟨husable, haccepts, rfl, -⟩ := encode_ok h
  obtain ⟨index, hindex, rfl⟩ := List.mem_mapIdx.mp hframe
  refine ⟨_, ((layout limits packets)[index]).messages, _, fun message hmessage => ?_, List.append_assoc _ _ _⟩
  obtain ⟨packet, hpacket, hcarried⟩ := ((layout_laidOut limits packets).packs husable).partOf _
    (List.mem_map_of_mem (List.getElem_mem hindex)) message hmessage
  exact hcarried.wellFormed (isValid_of_accepts (haccepts packet hpacket))

/-! ### What a body decides -/

namespace Payload

theorem rawType_eq (payload : Payload) : payload.rawType = payload.payloadType.toRaw := by
  cases payload with
  | undefined rawType data =>
    show rawType = PayloadType.toRaw (if rawType = 0 then .invalid else .other rawType)
    split
    · assumption
    · rfl
  | _ => rfl

/-- Whatever a body holds, its payload keeps the byte that names its type. -/
theorem rawType_parse (kind : MessageType) (raw : UInt8) (body : Bytes) : (parse kind raw body).rawType = raw := by
  by_cases hbody : body ∈ (PayloadType.ofRaw kind raw).language
  · obtain ⟨carrier, hcarrier⟩ := PayloadType.exists_carrier hbody
    rw [rawType_eq, payloadType_parse hbody]
    exact (PayloadType.eq_of_ofRaw hcarrier).2
  · rw [parse_of_notMem hbody]
    rfl

end Payload

/-! ### The packets of a frame with another body -/

namespace Decoder

/-- Messages that stand alone give their packets and leave the decoder as it is. -/
theorem collect_of_standsAlone (now : Nat) (decoder : Decoder) {history : List Heard}
    (h : ∀ heard ∈ history, heard.standsAlone = true) :
    Run.collect (take now) decoder history = (decoder, history.map Heard.packet) :=
  Run.collect_steady Heard.packet fun heard hheard => take_of_standsAlone (h heard hheard) now decoder

/-- The packet that is read of a whole message in a frame that was written under a header. -/
def packetIn (header : FrameHeader) (message : Message) : Packet :=
  Heard.packet ⟨header.asRead, .whole message⟩

/-- A decoder takes a written frame of whole payloads message by message. -/
theorem decode_written (decoder : Decoder) (now : Nat) (header : FrameHeader) {messages : List Message}
    (hmessages : ∀ m ∈ messages, m.WellFormed)
    (hunsegmented : ∀ m ∈ messages, m.position = .unsegmented) (padding : Nat) :
    decoder.decode now (header.write ++ (messages.flatMap Message.write ++ List.replicate padding 0))
      = ((decoder.expire now).1, messages.map (packetIn header)) := by
  rw [decode_eq_collect, hear_written header hmessages, collect_of_standsAlone, List.map_map]
  · rfl
  · exact List.forall_mem_map.mpr fun message hmessage => beq_iff_eq.mpr (hunsegmented message hmessage)

/-- Only one packet of a frame depends on the body of a message.  Let an encoder send a frame of unsegmented messages,
and let other bytes, as many, take the place of the body of one of them.  From any state a decoder gives one packet for
each message, before and after; all packets but the one of that message are the same, and that one keeps everything
but its payload, which keeps the byte of its type.  What is pending is the same after both frames. -/
theorem decode_overwrite {encoder : Encoder} {limits : FrameLimits} {packets : List Packet} {frames : List Bytes}
    (hencode : (encoder.encode limits packets).2 = .ok frames) {frame : Bytes} (hframe : frame ∈ frames)
    {messages : List Message} (hpieces : (hear frame).map Heard.piece = messages.map .whole)
    (hunsegmented : ∀ message ∈ messages, message.position = .unsegmented) {index : Nat}
    (hindex : index < messages.length) {body : Bytes} (hlength : body.length = messages[index].body.length)
    (decoder : Decoder) (now : Nat) :
    frame.overwrite (bodyStart messages index) messages[index].body = frame
      ∧ ∃ before after packet, decoder.decode now frame = ((decoder.expire now).1, before)
        ∧ decoder.decode now (frame.overwrite (bodyStart messages index) body) = ((decoder.expire now).1, after)
        ∧ before.length = messages.length ∧ after.length = messages.length
        ∧ (∀ other, other ≠ index → after[other]? = before[other]?)
        ∧ before[index]? = some packet
        ∧ after[index]? = some { packet with
            payload := .parse packet.messageType messages[index].header.payloadType body }
        ∧ (Payload.parse packet.messageType messages[index].header.payloadType body).rawType
          = packet.payload.rawType := by
  obtain ⟨header, written, padding, hwritten, rfl⟩ := Encoder.written hencode hframe
  obtain rfl : written = messages := by
    rw [hear_written header hwritten, List.map_map] at hpieces
    exact List.map_injective_iff.mpr (fun _ _ => Piece.whole.inj) hpieces
  -- the messages of the altered frame
  let altered := written.set index (written[index].withBody body)
  have hmem : ∀ message ∈ altered, message ∈ written ∨ message = written[index].withBody body :=
    fun _ => List.mem_or_eq_of_mem_set
  have hwell : ∀ message ∈ altered, message.WellFormed := by
    intro message hmessage
    rcases hmem message hmessage with hkept | rfl
    · exact hwritten message hkept
    · exact (hwritten _ (List.getElem_mem hindex)).withBody hlength
  have hposition : ∀ message ∈ altered, message.position = .unsegmented := by
    intro message hmessage
    rcases hmem message hmessage with hkept | rfl
    · exact hunsegmented message hkept
    · exact hunsegmented written[index] (List.getElem_mem hindex)
  have hbefore := decode_written decoder now header hwritten hunsegmented padding
  have hafter := decode_written decoder now header hwell hposition padding
  refine ⟨?_, written.map (packetIn header), altered.map (packetIn header), packetIn header written[index], hbefore,
    ?_, List.length_map _, ?_, fun other hother => ?_, ?_, ?_, ?_⟩
  · rw [overwrite_written header written _ hindex rfl]
    exact congrArg (fun messages => header.write ++ (messages.flatMap Message.write ++ _)) (List.set_getElem_self hindex)
  · rw [overwrite_written header written _ hindex hlength]
    exact hafter
  · rw [List.length_map, List.length_set]
  · rw [List.getElem?_map, List.getElem?_map, List.getElem?_set_ne hother.symm]
  · rw [List.getElem?_map, List.getElem?_eq_getElem hindex]
    rfl
  · rw [List.getElem?_map, List.getElem?_set_self hindex]
    rfl
  · rw [Payload.rawType_parse]
    exact (Payload.rawType_parse _ _ _).symm

/-- The frame that the first two packets share. -/
def sharedFrame : Bytes := (wrappingEncoder.writeFrames ⟨64, 84⟩ (layout ⟨64, 84⟩ mixedTraffic)).headI

/-- The two messages of that frame. -/
def sharedMessages : List Message := (mixedTraffic.take 2).map .ofWhole

/-- A decoder that waits for more of a payload. -/
def waitingDecoder : Decoder := (({} : Decoder).decode 0 (canPart 5 0 .first [1, 2, 3, 4])).1

/-- The body of the first message is wiped out: its payload is lost, the second message is not. -/
theorem decode_overwrite_sharedFrame :
    ∃ before after packet, waitingDecoder.decode 9 sharedFrame = ((waitingDecoder.expire 9).1, before)
      ∧ waitingDecoder.decode 9 (sharedFrame.overwrite (bodyStart sharedMessages 0) (List.replicate 19 0))
        = ((waitingDecoder.expire 9).1, after)
      ∧ before.length = 2 ∧ after.length = 2 ∧ after[1]? = before[1]? ∧ before[0]? = some packet
      ∧ after[0]? = some { packet with payload := .parse packet.messageType 1 (List.replicate 19 0) } := by
  have hencode : (wrappingEncoder.encode ⟨64, 84⟩ mixedTraffic).2
      = .ok (wrappingEncoder.writeFrames ⟨64, 84⟩ (layout ⟨64, 84⟩ mixedTraffic)) := by
    rw [Encoder.encode_of_usable mixedTraffic (by decide)]
    rfl
  have hframe : sharedFrame ∈ wrappingEncoder.writeFrames ⟨64, 84⟩ (layout ⟨64, 84⟩ mixedTraffic) := by
    decide +kernel
  have hpieces : (hear sharedFrame).map Heard.piece = sharedMessages.map .whole := by decide +kernel
  have hunsegmented : ∀ message ∈ sharedMessages, message.position = .unsegmented := by decide +kernel
  have hindex : 0 < sharedMessages.length := by decide
  have hlength : (List.replicate 19 (0 : UInt8)).length = sharedMessages[0].body.length := by rfl
  obtain ⟨-, before, after, packet, hbefore, hafter, hcount, hsame, hothers, hpacket, haltered, -⟩ :=
    decode_overwrite hencode hframe hpieces hunsegmented hindex hlength waitingDecoder 9
  exact ⟨before, after, packet, hbefore, hafter, hcount, hsame, hothers 1 (by decide), hpacket, haltered⟩

end Decoder

end CaptureProtocol
