import CaptureProtocol.Proofs.FrameGrammar
import CaptureProtocol.Proofs.RackRuns
import CaptureProtocol.Proofs.Reassembly
import CaptureProtocol.Proofs.UnreliableNetwork
import Mathlib

/-!
# Slots that are used again

A slot that is bound to a stream numbers its frames from 0, also where the stream was bound before.  What was sent
before may then be continued by what is sent after.

* `EncoderRack.Gives` — a packet that an encoder was given; `EncoderRack.Rebinds` — a stream is bound anew between two
  places of a run;
* `EncoderRack.encoder?_later`, `Orderly.same_call` — as long as a stream is not bound anew, the numbers of two calls do
  not meet;
* `SentFrame.latestOpening` — the latest first part for an address; `SentFrame.Began` — a pending payload
  began with it;
* `EncoderRack.Pends` — the invariant: what is pending comes from one call, or has waited while the stream was bound
  anew;
* `EncoderRack.Straddles` — a last part completes what has so waited;
* `Decoder.decode_unmixed` — one frame; `Decoder.decodeAll_unmixed` — every other packet was given to an encoder;
* `Decoder.decodeAll_mixed` — the packets that straddle cannot be left out.
-/

namespace CaptureProtocol

namespace EncoderRack

/-- A packet as it arrives that was given to an encoder at a place of a run. -/
def Gives (rack : EncoderRack) (operations : List RackOperation) (step : Nat) (packet : Packet) : Prop :=
  ∃ slot encoder call, rack.Transmits operations step slot encoder call
    ∧ ∃ original ∈ call.packets, packet = encoder.delivered original

/-- Between two places of a run, a slot is bound to the stream of an address. -/
def Rebinds (rack : EncoderRack) (operations : List RackOperation) (key : StreamKey) (first last : Nat) : Prop :=
  ∃ step operation, first < step ∧ step < last ∧ operations[step]? = some operation
    ∧ rack.Binds key.deviceId key.streamId operation

/-- A run that binds no stream to two slots, uses no frame number twice for want of numbers and labels its packets
rightly. -/
structure Orderly (rack : EncoderRack) (operations : List RackOperation) : Prop where
  exclusive : rack.ExclusiveThroughout operations
  used : rack.numbersUsed operations < 65536
  kinds : ∀ slot call, .encode slot call ∈ operations → ∀ packet ∈ call.packets,
    packet.payloadType.messageType? = some packet.messageType

variable {rack : EncoderRack} {operations : List RackOperation} {key : StreamKey} {first last later : Nat}

theorem Rebinds.mono (h : rack.Rebinds operations key first last) (hlast : last ≤ later) :
    rack.Rebinds operations key first later := by
  obtain ⟨step, operation, hfirst, hstep, hoperation⟩ := h
  exact ⟨step, operation, hfirst, hstep.trans_le hlast, hoperation⟩

/-- The run up to a place and the operation there. -/
theorem take_succ {step slot : Nat} {encoder : Encoder} {call : Call}
    (h : rack.Transmits operations step slot encoder call) :
    operations.take (step + 1) = operations.take step ++ [.encode slot call] := by
  rw [List.take_add_one, h.operation]
  rfl

/-- A call has numbers to use. -/
theorem Transmits.numbersUsed_le {step slot : Nat} {encoder : Encoder} {call : Call}
    (h : rack.Transmits operations step slot encoder call) :
    rack.numbersUsed (operations.take step) + encoder.framesStarted call.limits call.packets
      ≤ rack.numbersUsed operations := by
  have hsplit : operations = operations.take (step + 1) ++ operations.drop (step + 1) :=
    (List.take_append_drop ..).symm
  conv_rhs => rw [hsplit, numbersUsed_append, take_succ h, numbersUsed_append]
  show _ ≤ _ + ((rack.performAll (operations.take step)).numbersStarted (.encode slot call) + 0) + _
  rw [numbersStarted_encode h.encoder]
  omega

theorem numbersUsed_single (encoder : Encoder) (call : Call) :
    Sender.numbersUsed ⟨encoder, [call]⟩ = encoder.framesStarted call.limits call.packets := rfl

/-- As long as a stream is not bound anew, the slot that has it goes on with its numbers. -/
theorem encoder?_later (hexclusive : rack.ExclusiveThroughout operations) {slot other : Nat} {encoder another : Encoder}
    {call otherCall : Call} (h : rack.Transmits operations first slot encoder call)
    (hother : rack.Transmits operations last other another otherCall) (hlater : first < last)
    (hdevice : another.deviceId = encoder.deviceId) (hstream : another.streamId = encoder.streamId)
    (hkept : ∀ step operation, first < step → step < last → operations[step]? = some operation →
      ¬ rack.Binds encoder.deviceId encoder.streamId operation) :
    ∃ count, another.sequence
        = encoder.sequence + UInt16.ofNat (encoder.framesStarted call.limits call.packets + count)
      ∧ rack.numbersUsed (operations.take first) + encoder.framesStarted call.limits call.packets + count
        ≤ rack.numbersUsed (operations.take last) := by
  obtain ⟨distance, rfl⟩ := Nat.exists_eq_add_of_le (Nat.succ_le_of_lt hlater)
  have htake : operations.take (first.succ + distance)
      = operations.take (first + 1) ++ (operations.drop (first + 1)).take distance := List.take_add
  have hlate := hother.encoder
  rw [htake, performAll_append] at hlate
  obtain ⟨early, count, hearly, hearlyDevice, hearlyStream, hcount, hsequence⟩ := encoder?_performAll hlate (by
    intro operation hoperation
    obtain ⟨index, hindex⟩ := List.mem_iff_getElem?.mp hoperation
    have hdistance : index < distance := by
      have hlength := (List.getElem?_eq_some_iff.mp hindex).1
      rw [List.length_take] at hlength
      omega
    rw [List.getElem?_take_of_lt hdistance, List.getElem?_drop] at hindex
    rw [Binds, size_performAll, hdevice, hstream]
    exact hkept (first + 1 + index) operation (by omega) (by omega) hindex)
  -- just after the first call its slot has the stream, so that no other slot has it
  have hslot : (rack.performAll (operations.take (first + 1))).encoder? slot
      = some (encoder.advance (encoder.framesStarted call.limits call.packets)) := by
    rw [take_succ h, performAll_append]
    show ((rack.performAll (operations.take first)).perform (.encode slot call)).1.encoder? slot = _
    rw [perform_encode h.encoder, encoder?_put (lt_size_of_encoder? h.encoder), if_pos rfl]
  have hsame : other = slot := hexclusive.performAll_take (first + 1) hearly hslot
    (hearlyDevice.symm.trans hdevice) (hearlyStream.symm.trans hstream)
  rw [hsame, hslot, Option.some.injEq] at hearly
  refine ⟨count, ?_, ?_⟩
  · rw [hsequence, ← hearly, UInt16.ofNat_add, ← add_assoc]
    rfl
  · rw [htake, take_succ h, numbersUsed_append, numbersUsed_append]
    show _ ≤ _ + ((rack.performAll (operations.take first)).numbersStarted (.encode slot call) + 0) + _
    rw [numbersStarted_encode h.encoder, Nat.add_zero, ← take_succ h]
    exact Nat.add_le_add_left hcount _

/-- The frame that a pending payload waits for comes from the same call, unless the stream was bound anew: the call has
a number of its own for it, and the numbers that come later are others. -/
theorem Orderly.same_call (horderly : rack.Orderly operations) {slot other : Nat} {encoder another : Encoder}
    {call otherCall : Call} (hopened : rack.Transmits operations first slot encoder call)
    (hnow : rack.Transmits operations last other another otherCall) (hle : first ≤ last)
    {limits : FrameLimits} {packet : Packet} {start count index : Nat} {arrived : List Bytes}
    {pending : PendingPayload} (hgathers : Gathers ⟨encoder, [call]⟩ limits packet start count arrived (key, pending))
    {entry : Option (FrameLimits × FrameDraft)} (hentry : (Sender.ledger ⟨another, [otherCall]⟩)[index]? = some entry)
    {kind : MessageType} {header : MessageHeader} (hkey : key = Decoder.keyOf (another.frameHeader kind index) header)
    (hnext : pending.next = (another.frameHeader kind index).sequence)
    (hkept : ¬ rack.Rebinds operations key first last) : first = last := by
  by_contra hne
  have haddress : key = encoder.addressOf packet := hgathers.key
  have hdevice : another.deviceId = encoder.deviceId := congrArg StreamKey.deviceId (hkey.symm.trans haddress)
  have hstream : another.streamId = encoder.streamId := congrArg StreamKey.streamId (hkey.symm.trans haddress)
  obtain ⟨gap, hsequence, hbefore⟩ := encoder?_later horderly.exclusive hopened hnow (Nat.lt_of_le_of_ne hle hne)
    hdevice hstream fun step operation hfirst hlast hoperation hbinds => hkept ⟨step, operation, hfirst, hlast,
      hoperation, by rw [haddress]; exact hbinds⟩
  -- both numbers are in their ledgers
  have hwaits := hgathers.cuts.parts count _ (List.getElem?_eq_getElem hgathers.unfinished)
  have hwaitsLength := (List.getElem?_eq_some_iff.mp hwaits).1
  have hindexLength := (List.getElem?_eq_some_iff.mp hentry).1
  rw [Sender.ledger, Encoder.ledger_length] at hwaitsLength hindexLength
  have hstarted : start + count < encoder.framesStarted call.limits call.packets := hwaitsLength
  have hindex : index < another.framesStarted otherCall.limits otherCall.packets := hindexLength
  have hlimit := hnow.numbersUsed_le
  have hused := horderly.used
  -- so they are two numbers
  have hnumbers : encoder.sequence + UInt16.ofNat (start + count)
      = encoder.sequence + UInt16.ofNat (encoder.framesStarted call.limits call.packets + gap + index) := by
    rw [UInt16.ofNat_add _ index, ← add_assoc, ← hsequence]
    exact hgathers.next.symm.trans hnext
  have hequal := congrArg UInt16.toNat (add_left_cancel hnumbers)
  rw [UInt16.toNat_ofNat', UInt16.toNat_ofNat', Nat.mod_eq_of_lt (by omega), Nat.mod_eq_of_lt (by omega)] at hequal
  omega

end EncoderRack

/-! ### First parts -/

/-- What is heard in a written frame. -/
theorem hear_writeFrame {encoder : Encoder} {limits : FrameLimits} {index : Nat} {draft : FrameDraft}
    (hkind : MessageType.ofRaw draft.messageType.toRaw = draft.messageType)
    (hmessages : ∀ message ∈ draft.messages, message.WellFormed) :
    hear (encoder.writeFrame limits index draft)
      = draft.messages.map fun message => ⟨encoder.frameHeader draft.messageType index, .whole message⟩ := by
  have hheader : (encoder.frameHeader draft.messageType index).asRead = encoder.frameHeader draft.messageType index :=
    FrameHeader.asRead_of_kind hkind
  rw [Encoder.writeFrame, List.append_assoc, hear_written _ hmessages, hheader]

/-- A first part for an address is heard. -/
def Heard.opens (key : StreamKey) (heard : Heard) : Bool :=
  match heard.piece with
  | .truncated _ => false
  | .whole message => message.header.flags.segmentation = .first ∧ Decoder.keyOf heard.frame message.header = key

namespace SentFrame

/-- The frame holds a first part for an address. -/
def opens (key : StreamKey) (frame : SentFrame) : Bool := (hear frame.bytes).any (Heard.opens key)

/-- The latest frame with a first part for an address. -/
def latestOpening (key : StreamKey) (frames : List SentFrame) : Option SentFrame := frames.reverse.find? (opens key)

/-- A pending payload began with a first part in a frame, the latest one for its address. -/
structure Began (opener : SentFrame) (before : List SentFrame) (entry : StreamKey × PendingPayload) : Prop where
  latest : latestOpening entry.1 before = some opener
  begins : ∃ message, (⟨entry.2.frame, .whole message⟩ : Heard) ∈ hear opener.bytes
    ∧ message.header = entry.2.header ∧ message.header.flags.segmentation = .first

variable {key : StreamKey} {frame opener : SentFrame} {before : List SentFrame} {entry : StreamKey × PendingPayload}

theorem mem_of_latestOpening (h : latestOpening key before = some frame) : frame ∈ before :=
  List.mem_reverse.mp (List.mem_of_find?_eq_some h)

theorem latestOpening_opened (h : frame.opens key = true) (before : List SentFrame) :
    latestOpening key (before ++ [frame]) = some frame := by
  rw [latestOpening, List.reverse_append]
  exact List.find?_cons_of_pos h

theorem latestOpening_kept (h : frame.opens key = false) (before : List SentFrame) :
    latestOpening key (before ++ [frame]) = latestOpening key before := by
  rw [latestOpening, List.reverse_append]
  exact List.find?_cons_of_neg (Bool.eq_false_iff.mp h)

/-- A frame without a first part for the address leaves the latest one as it is. -/
theorem Began.snoc (h : opener.Began before entry) (hquiet : frame.opens entry.1 = false) :
    opener.Began (before ++ [frame]) entry :=
  ⟨(latestOpening_kept hquiet before).trans h.latest, h.begins⟩

/-- One more part does not change with which one a payload began. -/
theorem Began.append {pending : PendingPayload} (h : opener.Began before (key, pending)) (body : Bytes) :
    opener.Began before (key, pending.append body) :=
  ⟨h.latest, h.begins⟩

/-- A frame with whole messages opens nothing. -/
theorem opens_of_shares {encoder : Encoder} {limits : FrameLimits} {index : Nat} {draft : FrameDraft}
    {members : List Packet} (hbytes : frame.bytes = encoder.writeFrame limits index draft)
    (hshares : draft.Shares limits members) (hsendable : ∀ packet ∈ members, packet.Sendable) (key : StreamKey) :
    frame.opens key = false := by
  have hwellFormed := hshares.wellFormed fun packet h => (hsendable packet h).valid
  rw [opens, hbytes, hear_writeFrame (hshares.ofRaw_toRaw hsendable) hwellFormed, hshares.messages, List.map_map,
    List.any_eq_false]
  intro heard hheard
  obtain ⟨packet, -, rfl⟩ := List.mem_map.mp hheard
  have hposition := Decoder.segmentation_ofPacket packet packet.payload.toBytes .unsegmented
  simp [Heard.opens, Message.ofWhole, hposition]

/-- A frame with one part opens an address when it is a first part for it. -/
theorem opens_of_hear {header : FrameHeader} {message : Message} (h : hear frame.bytes = [⟨header, .whole message⟩])
    (key : StreamKey) :
    frame.opens key
      = decide (message.header.flags.segmentation = .first ∧ Decoder.keyOf header message.header = key) := by
  rw [opens, h]
  exact Bool.or_false _

/-- What is heard in a frame with a part of a packet. -/
theorem hear_of_part {encoder : Encoder} {limits : FrameLimits} {index : Nat} {packet : Packet}
    {position : Segmentation} {body : Bytes} (hsendable : packet.Sendable) (hlength : body.length ≤ 65535)
    (hbytes : frame.bytes
      = encoder.writeFrame limits index (.single packet.messageType (.ofPacket packet position body))) :
    hear frame.bytes
      = [⟨encoder.frameHeader packet.messageType index, .whole (.ofPacket packet position body)⟩] := by
  rw [hbytes, hear_writeFrame (MessageType.ofRaw_toRaw_of_carries hsendable.kind)]
  · rfl
  · intro message hmessage
    rw [List.mem_singleton.mp hmessage]
    exact Message.wellFormed_ofPacket hsendable.valid hlength

end SentFrame

/-! ### What is pending -/

namespace EncoderRack

/-- A pending payload has parts from the call that gave its first part, or has waited while the stream was bound
anew. -/
inductive Pends (rack : EncoderRack) (operations : List RackOperation) (before : List SentFrame) (latest : Nat)
    (entry : StreamKey × PendingPayload) : Prop
  | gathers {opener : SentFrame} {slot : Nat} {encoder : Encoder} {call : Call} {limits : FrameLimits}
      {packet : Packet} {first count : Nat} {arrived : List Bytes} (hbegan : opener.Began before entry)
      (htransmits : rack.Transmits operations opener.step slot encoder call)
      (hgathers : Gathers ⟨encoder, [call]⟩ limits packet first count arrived entry)
  | waits {opener : SentFrame} (hbegan : opener.Began before entry)
      (hrebinds : rack.Rebinds operations entry.1 opener.step latest)

/-- A packet that is completed by a last part in a frame: its first part is still pending in the decoder and was sent
before the stream was bound anew, and the frame after that. -/
inductive Straddles (rack : EncoderRack) (operations : List RackOperation) (before : List SentFrame)
    (decoder : Decoder) (frame : SentFrame) : Packet → Prop
  | completed {opener : SentFrame} {pending : PendingPayload} {header : FrameHeader} {last : Message}
      (hheard : (⟨header, .whole last⟩ : Heard) ∈ hear frame.bytes)
      (hlast : last.header.flags.segmentation = .last)
      (hpending : decoder.pending? (Decoder.keyOf header last.header) = some pending)
      (hnext : pending.next = header.sequence)
      (hbegan : opener.Began before (Decoder.keyOf header last.header, pending))
      (hrebinds : rack.Rebinds operations (Decoder.keyOf header last.header) opener.step frame.step) :
      Straddles rack operations before decoder frame (pending.append last.body).packet

variable {rack : EncoderRack} {operations : List RackOperation} {before : List SentFrame} {frame : SentFrame}
  {latest later : Nat} {key : StreamKey} {entry : StreamKey × PendingPayload}

theorem Pends.mono (h : rack.Pends operations before latest entry) (hlater : latest ≤ later) :
    rack.Pends operations before later entry := by
  cases h with
  | gathers hbegan htransmits hgathers => exact .gathers hbegan htransmits hgathers
  | waits hbegan hrebinds => exact .waits hbegan (hrebinds.mono hlater)

/-- A frame without a first part for the address changes nothing about what is pending. -/
theorem Pends.snoc (h : rack.Pends operations before latest entry) (hquiet : frame.opens entry.1 = false) :
    rack.Pends operations (before ++ [frame]) latest entry := by
  cases h with
  | gathers hbegan htransmits hgathers => exact .gathers (hbegan.snoc hquiet) htransmits hgathers
  | waits hbegan hrebinds => exact .waits (hbegan.snoc hquiet) hrebinds

/-- The part that a pending payload waits for: it goes on with the packet whose parts are pending, or the payload has
waited while the stream was bound anew. -/
theorem Pends.next_part {pending : PendingPayload} (h : rack.Pends operations before frame.step (key, pending))
    (horderly : rack.Orderly operations) (hordered : ∀ opener ∈ before, opener.step ≤ frame.step) {slot : Nat}
    {encoder : Encoder} {call : Call} (htransmits : rack.Transmits operations frame.step slot encoder call)
    {limits : FrameLimits} {draft : FrameDraft} {index : Nat}
    (hentry : (Sender.ledger ⟨encoder, [call]⟩)[index]? = some (some (limits, draft)))
    {kind : MessageType} {header : MessageHeader} (hkey : key = Decoder.keyOf (encoder.frameHeader kind index) header)
    (hnext : pending.next = (encoder.frameHeader kind index).sequence) :
    ∃ opener, SentFrame.Began opener before (key, pending)
      ∧ (rack.Rebinds operations key opener.step frame.step
        ∨ opener.step = frame.step ∧ ∃ packet first count arrived,
          Gathers ⟨encoder, [call]⟩ limits packet first count arrived (key, pending)
            ∧ index = first + count ∧ (cutDrafts limits packet)[count]? = some draft) := by
  cases h with
  | @waits opener hbegan hrebinds => exact ⟨opener, hbegan, .inl hrebinds⟩
  | @gathers opener early earlyEncoder earlyCall earlyLimits packet first count arrived hbegan hopened hgathers =>
    refine ⟨opener, hbegan, or_iff_not_imp_left.mpr fun hkept => ?_⟩
    have hstep := horderly.same_call hopened htransmits
      (hordered opener (SentFrame.mem_of_latestOpening hbegan.latest)) hgathers hentry hkey hnext hkept
    rw [hstep] at hopened
    obtain ⟨rfl, rfl, rfl⟩ := htransmits.unique hopened
    have hused : Sender.numbersUsed ⟨earlyEncoder, [earlyCall]⟩ ≤ 65536 := by
      rw [numbersUsed_single]
      have hlimit := htransmits.numbersUsed_le
      have hused := horderly.used
      omega
    obtain ⟨hindex, hlimits, hdraft⟩ := hgathers.next_part hused hentry hnext
    subst hlimits
    exact ⟨hstep, packet, first, count, arrived, hgathers, hindex, hdraft⟩

end EncoderRack

namespace Decoder

variable {rack : EncoderRack} {operations : List RackOperation} {before : List SentFrame} {frame : SentFrame}
  {decoder : Decoder}

/-- What becomes of a decoder in a frame of a run: what is pending stems from the run, and a packet was given to the
call that gave the frame, or it straddles. -/
def Unmixed (rack : EncoderRack) (operations : List RackOperation) (before : List SentFrame) (decoder : Decoder)
    (frame : SentFrame) (after : Decoder × List Packet) : Prop :=
  after.1.Every (rack.Pends operations (before ++ [frame]) frame.step)
    ∧ ∀ packet ∈ after.2, rack.Gives operations frame.step packet
        ∨ rack.Straddles operations before decoder frame packet

/-- A frame that gives nothing and opens nothing. -/
theorem unmixed_of_quiet {after : Decoder} (h : after.Every (rack.Pends operations before frame.step))
    (hquiet : ∀ key, frame.opens key = false) : Unmixed rack operations before decoder frame (after, []) :=
  ⟨fun entry hentry => (h entry hentry).snoc (hquiet entry.1), List.forall_mem_nil _⟩

/-- What a decoder holds for other addresses after an entry was put in. -/
theorem mem_hold_ne {key : StreamKey} {pending : PendingPayload} {entry : StreamKey × PendingPayload}
    (h : entry ∈ (decoder.hold key pending).pending) :
    entry = (key, pending) ∨ entry ∈ decoder.pending ∧ entry.1 ≠ key := by
  rcases List.mem_cons.mp h with h | h
  · exact .inl h
  · obtain ⟨hentry, hkey⟩ := List.mem_filter.mp h
    exact .inr ⟨hentry, ne_of_beq_false (by simpa using hkey)⟩

/-- A frame with a part of a packet. -/
theorem accept_part_unmixed (h : decoder.Every (rack.Pends operations before frame.step))
    (horderly : rack.Orderly operations)
    (hordered : ∀ opener ∈ before, opener.step ≤ frame.step) {slot : Nat} {encoder : Encoder} {call : Call}
    (htransmits : rack.Transmits operations frame.step slot encoder call) {limits : FrameLimits} {packet : Packet}
    {first position : Nat} (hcuts : Sender.Cuts ⟨encoder, [call]⟩ limits packet first) {message : Message}
    (hdraft : (cutDrafts limits packet)[position]? = some (.single packet.messageType message))
    (hheard : hear frame.bytes = [⟨encoder.frameHeader packet.messageType (first + position), .whole message⟩])
    (now : Nat) :
    Unmixed rack operations before decoder frame
      (accept now (encoder.frameHeader packet.messageType (first + position)) decoder (.whole message)) := by
  have hentry := hcuts.parts position _ hdraft
  obtain ⟨after, packets, haccept, houtcome⟩ := accept_outcome now
    (encoder.frameHeader packet.messageType (first + position)) decoder (.whole message)
  rw [haccept]
  have hquiet : message.header.flags.segmentation ≠ .first → ∀ key, frame.opens key = false := fun hposition key => by
    rw [SentFrame.opens_of_hear hheard]
    exact decide_eq_false fun h => hposition h.1
  cases houtcome with
  | single hposition =>
    rw [segmentation_of_cutDrafts hdraft, segmentPosition] at hposition
    split_ifs at hposition
  | opened hposition =>
    refine ⟨fun entry hmem => ?_, List.forall_mem_nil _⟩
    rcases mem_hold_ne hmem with rfl | ⟨hold, hother⟩
    · rw [segmentation_of_cutDrafts hdraft] at hposition
      have hzero := segmentPosition_eq_first hposition
      subst hzero
      have hopens : frame.opens (keyOf (encoder.frameHeader packet.messageType (first + 0)) message.header) = true := by
        rw [SentFrame.opens_of_hear hheard]
        exact decide_eq_true ⟨(segmentation_of_cutDrafts hdraft).trans hposition, rfl⟩
      have hbegins : (⟨encoder.frameHeader packet.messageType (first + 0), .whole message⟩ : Heard)
          ∈ hear frame.bytes := by
        rw [hheard]
        exact List.mem_singleton_self _
      exact .gathers ⟨SentFrame.latestOpening_opened hopens before, message, hbegins, rfl,
        (segmentation_of_cutDrafts hdraft).trans hposition⟩ htransmits (.start hcuts hdraft now [])
    · refine (h entry hold).snoc ?_
      rw [SentFrame.opens_of_hear hheard]
      exact decide_eq_false fun hopens => hother hopens.2.symm
  | orphan hposition => exact unmixed_of_quiet h (hquiet (later_ne_first hposition))
  | broken hposition => exact unmixed_of_quiet (Every.forget h _) (hquiet (later_ne_first hposition))
  | @appended _ pending hposition hpending hnext =>
    have hsilent := hquiet (by rw [hposition]; decide)
    refine ⟨fun entry hmem => ?_, List.forall_mem_nil _⟩
    rcases mem_hold hmem with rfl | hold
    · obtain ⟨opener, hbegan, hrebinds | ⟨hstep, other, otherFirst, count, arrived, hgathers, -, hother⟩⟩ :=
        (Every.of_pending? h hpending).next_part horderly hordered htransmits hentry rfl hnext
      · exact .waits ((hbegan.append _).snoc (hsilent _)) hrebinds
      · rw [← hstep] at htransmits
        exact .gathers ((hbegan.append _).snoc (hsilent _)) htransmits (hgathers.append hother hposition)
    · exact (h entry hold).snoc (hsilent entry.1)
  | @completed _ pending hposition hpending hnext =>
    have hsilent := hquiet (by rw [hposition]; decide)
    refine ⟨fun entry hmem => (Every.forget h _ entry hmem).snoc (hsilent entry.1), fun given hgiven => ?_⟩
    rw [List.mem_singleton.mp hgiven]
    obtain ⟨opener, hbegan, hrebinds | ⟨hstep, other, otherFirst, count, arrived, hgathers, -, hother⟩⟩ :=
      (Every.of_pending? h hpending).next_part horderly hordered htransmits hentry rfl hnext
    · exact .inr (.completed (by rw [hheard]; exact List.mem_singleton_self _) hposition hpending hnext hbegan hrebinds)
    · obtain ⟨call', hcall, hpassed⟩ := hgathers.cuts.passed
      rw [List.mem_singleton.mp hcall] at hpassed
      exact .inl ⟨slot, encoder, call, htransmits, other, hpassed, (hgathers.complete hother hposition).1⟩

/-- A frame of the run. -/
theorem decode_unmixed (h : decoder.Every (rack.Pends operations before frame.step))
    (horderly : rack.Orderly operations) (hordered : ∀ opener ∈ before, opener.step ≤ frame.step)
    (hframe : frame ∈ rack.sent 0 operations) (now : Nat) :
    Unmixed rack operations before (decoder.expire now).1 frame (decoder.decode now frame.bytes) := by
  obtain ⟨step, slot, encoder, call, hstep, htransmits, hbytes⟩ := EncoderRack.mem_sent hframe
  rw [Nat.zero_add] at hstep
  rw [← hstep] at htransmits
  obtain ⟨index, limits, draft, hentry, hwritten⟩ := Sender.mem_sent hbytes
  have hcarries : Carries (encoder.writeFrame limits index draft) ⟨now, frame.bytes⟩ :=
    ⟨0, by rw [← hwritten]; exact (List.append_nil _).symm⟩
  have hexpired : (decoder.expire now).1.Every (rack.Pends operations before frame.step) := Every.expire h now
  have hkinds : ∀ packet, Sender.Passed ⟨encoder, [call]⟩ packet → packet.payload.isValid = true →
      packet.payloadType.messageType? = some packet.messageType := by
    rintro packet ⟨passed, hpassed, hpacket⟩ -
    rw [List.mem_singleton.mp hpassed] at hpacket
    exact horderly.kinds slot call (List.mem_of_getElem? htransmits.operation) packet hpacket
  rcases Sender.entry_cases hkinds hentry with
    ⟨members, hmembers, hshares⟩ | ⟨packet, first, position, hcuts, rfl, hdraft⟩
  · have hsendable : ∀ packet ∈ members, packet.Sendable := fun packet hpacket => (hmembers packet hpacket).2
    have hdecode := decode_shared decoder hcarries hshares hsendable
    dsimp only at hdecode
    rw [hdecode]
    have hquiet := SentFrame.opens_of_shares hwritten hshares hsendable
    refine ⟨fun entry hpends => (hexpired entry hpends).snoc (hquiet entry.1), ?_⟩
    intro given hgiven
    obtain ⟨packet, hpacket, rfl⟩ := List.mem_map.mp hgiven
    obtain ⟨passed, hpassed, hpassedPacket⟩ := (hmembers packet hpacket).1
    rw [List.mem_singleton.mp hpassed] at hpassedPacket
    exact .inl ⟨slot, encoder, call, htransmits, packet, hpassedPacket, rfl⟩
  · obtain ⟨message, rfl⟩ := eq_single_of_cutDrafts hdraft
    obtain ⟨hpart, hmessage⟩ := part_of_cutDrafts hdraft
    have hlength : message.body.length ≤ 65535 :=
      (length_le_of_mem_chunks hcuts.usable.capacity_pos (List.mem_of_getElem? hpart)).trans limits.capacity_le
    have hheard : hear frame.bytes
        = [⟨encoder.frameHeader packet.messageType (first + position), .whole message⟩] := by
      rw [hmessage] at hwritten ⊢
      exact SentFrame.hear_of_part hcuts.sendable hlength hwritten
    have hdecode : decoder.decode now frame.bytes
        = accept now (encoder.frameHeader packet.messageType (first + position)) (decoder.expire now).1
            (.whole message) := by
      rw [decode_eq_collect, hheard, Run.collect_cons, Run.collect_nil, List.append_nil]
      rfl
    rw [hdecode]
    exact accept_part_unmixed hexpired horderly hordered htransmits hcuts hdraft hheard now

/-- What is pending after frames of the run.  The induction is on the frames, from the last one on. -/
theorem pends_decodeAll (horderly : rack.Orderly operations) (now timeout : Nat)
    (hframes : ∀ frame ∈ before, frame ∈ rack.sent 0 operations) (hordered : before.Pairwise (·.step ≤ ·.step))
    {latest : Nat} (hlatest : ∀ frame ∈ before, frame.step ≤ latest) :
    (decodeAll now { timeout } (before.map SentFrame.bytes)).1.Every (rack.Pends operations before latest) := by
  induction before using List.reverseRecOn generalizing latest with
  | nil => exact every_empty timeout
  | append_singleton before frame ih =>
    obtain ⟨hbefore, -, hlast⟩ := List.pairwise_append.mp hordered
    have hearlier : ∀ opener ∈ before, opener.step ≤ frame.step := fun opener hopener =>
      hlast opener hopener frame List.mem_cons_self
    have hframe := List.mem_append_right before (List.mem_singleton_self frame)
    have hpends := ih (fun opener hopener => hframes opener (List.mem_append_left _ hopener)) hbefore hearlier
    have hstep := decode_unmixed hpends horderly hearlier (hframes frame hframe) now
    rw [List.map_append, decodeAll, Run.collect_append]
    exact fun entry hentry => (hstep.1 entry hentry).mono (hlatest frame hframe)

/-- Frames of a run, some of them lost, give no packets but those of the calls that gave the frames, unless a last part
completes what is pending from before its stream was bound anew. -/
theorem decodeAll_unmixed (horderly : rack.Orderly operations) {delivered : List SentFrame}
    (hdelivered : delivered.Sublist (rack.sent 0 operations)) (now timeout : Nat) {before after : List SentFrame}
    {frame : SentFrame} (hsplit : delivered = before ++ frame :: after) :
    let decoder := (decodeAll now { timeout } (before.map SentFrame.bytes)).1
    ∀ packet ∈ (decoder.decode now frame.bytes).2, rack.Gives operations frame.step packet
      ∨ rack.Straddles operations before (decoder.expire now).1 frame packet := by
  have hordered := (rack.pairwise_sent 0 operations).sublist hdelivered
  rw [hsplit] at hordered hdelivered
  obtain ⟨hbefore, -, hlater⟩ := List.pairwise_append.mp hordered
  have hearlier : ∀ opener ∈ before, opener.step ≤ frame.step := fun opener hopener =>
    hlater opener hopener frame List.mem_cons_self
  have hpends := pends_decodeAll horderly now timeout
    (fun opener hopener => hdelivered.subset (List.mem_append_left _ hopener)) hbefore hearlier
  exact (decode_unmixed hpends horderly hearlier (hdelivered.subset (List.mem_append_right _ List.mem_cons_self)) now).2

end Decoder

/-! ### A stream that is bound anew -/

/-- A call with a CAN frame that needs two frames of 44 bytes. -/
def cutCall (data : Bytes) : Call := ⟨⟨44, 44⟩, [.ofPayload 1 1000 (.can (.ofIdentifier 45 data))]⟩

/-- A slot is bound to a stream and used, and both are done again. -/
def reboundRun : List RackOperation :=
  [.assign 1 3 1 (some .can), .encode 1 (cutCall [1, 2, 3, 4, 5, 6, 7, 8]),
   .assign 1 3 1 (some .can), .encode 1 (cutCall [17, 18, 19, 20, 21, 22, 23, 24])]

theorem calls_of_reboundRun {slot : Nat} {call : Call} (h : .encode slot call ∈ reboundRun) :
    call = cutCall [1, 2, 3, 4, 5, 6, 7, 8] ∨ call = cutCall [17, 18, 19, 20, 21, 22, 23, 24] := by
  simp only [reboundRun, List.mem_cons, List.not_mem_nil, reduceCtorEq, RackOperation.encode.injEq, or_false,
    false_or] at h
  exact h.imp And.right And.right

theorem orderly_reboundRun : (EncoderRack.empty 2).Orderly reboundRun where
  exclusive := by
    refine ⟨?_, ?_, ?_, ?_, ?_⟩ <;> exact EncoderRack.exclusive_of_nodup (by decide +kernel)
  used := by decide +kernel
  kinds := by
    intro slot call hcall
    rcases calls_of_reboundRun hcall with rfl | rfl <;> decide

/-- The frames of `reboundRun`: two of the first call and two of the second one. -/
def allFrames : List SentFrame := (EncoderRack.empty 2).sent 0 reboundRun

/-- The first frame of the first call and the last frame of the second one. -/
def reboundFrames : List SentFrame := allFrames.eraseIdx 2 |>.eraseIdx 1

theorem reboundFrames_sublist : reboundFrames.Sublist allFrames :=
  (List.eraseIdx_sublist ..).trans (List.eraseIdx_sublist ..)

/-- The packet of the second call as it arrives. -/
def secondPacket : Packet :=
  { Packet.ofPayload 1 1000 (.can (.ofIdentifier 45 [17, 18, 19, 20, 21, 22, 23, 24])) with
    deviceId := 3, streamId := 1 }

/-- A CAN frame with the first half of the data of one call and the second half of that of the other. -/
def mixedPacket : Packet :=
  { Packet.ofPayload 1 1000 (.can (.ofIdentifier 45 [1, 2, 3, 4, 21, 22, 23, 24])) with deviceId := 3, streamId := 1 }

/-- Neither call has it. -/
theorem not_gives_mixedPacket {step : Nat} : ¬ (EncoderRack.empty 2).Gives reboundRun step mixedPacket := by
  intro h
  obtain ⟨slot, encoder, call, htransmits, original, horiginal, hpacket⟩ := h
  have hpayload : mixedPacket.payload = original.payload.canonical := congrArg Packet.payload hpacket
  rcases calls_of_reboundRun (List.mem_of_getElem? htransmits.operation) with rfl | rfl
  all_goals
    rw [List.mem_singleton.mp horiginal] at hpayload
    exact absurd hpayload (by decide)

/-- With all frames before it, the last frame of `reboundRun` completes what began after the stream was bound anew. -/
theorem not_straddles_allFrames {decoder : Decoder} {packet : Packet} :
    ¬ (EncoderRack.empty 2).Straddles reboundRun (allFrames.take 3) decoder (allFrames.getD 3 default) packet := by
  intro h
  cases h with
  | @completed opener pending header last hheard hlast hpending hnext hbegan hrebinds =>
    have hkeys : ((hear (allFrames.getD 3 default).bytes).filterMap Heard.part?).map Part.key = [⟨3, 1, 1⟩] := by
      decide +kernel
    have hpart : Heard.part? ⟨header, .whole last⟩ = some ⟨header, last⟩ :=
      if_neg (by rw [hlast]; exact Segmentation.noConfusion)
    have hkey : Part.key ⟨header, last⟩ ∈ [(⟨3, 1, 1⟩ : StreamKey)] := by
      rw [← hkeys]
      exact List.mem_map_of_mem (List.mem_filterMap.mpr ⟨_, hheard, hpart⟩)
    rw [Part.key_mk] at hkey
    rw [List.mem_singleton.mp hkey] at hbegan hrebinds
    -- the latest first part is that of the second call
    have hopener : SentFrame.latestOpening ⟨3, 1, 1⟩ (allFrames.take 3) = some (allFrames.getD 2 default) := by
      decide +kernel
    have hlatest := hopener.symm.trans hbegan.latest
    rw [Option.some_inj] at hlatest
    subst hlatest
    obtain ⟨step, operation, hafter, hbefore, -⟩ := hrebinds
    have hstep : (allFrames.getD 3 default).step = (allFrames.getD 2 default).step := by decide +kernel
    omega

namespace Decoder

/-- The last frame of `reboundRun`, after all other frames, completes a packet of the second call: what is pending there
began after the stream was bound anew.  After the first frame alone it completes a packet that straddles. -/
theorem decodeAll_unmixed_rebound :
    (EncoderRack.empty 2).Gives reboundRun 3 secondPacket
      ∧ (EncoderRack.empty 2).Straddles reboundRun (reboundFrames.take 1)
          ((decodeAll 0 { timeout := 2000 } ((reboundFrames.take 1).map SentFrame.bytes)).1.expire 0).1
          (reboundFrames.getD 1 default) mixedPacket := by
  have hall : allFrames = allFrames.take 3 ++ allFrames.getD 3 default :: [] := by decide +kernel
  have hsecond := decodeAll_unmixed orderly_reboundRun (List.Sublist.refl allFrames) 0 2000 hall secondPacket
    (by decide +kernel)
  have hstep : (allFrames.getD 3 default).step = 3 := by decide +kernel
  rw [hstep] at hsecond
  have hlossy : reboundFrames = reboundFrames.take 1 ++ reboundFrames.getD 1 default :: [] := by decide +kernel
  have hmixed := decodeAll_unmixed orderly_reboundRun reboundFrames_sublist 0 2000 hlossy mixedPacket
    (by decide +kernel)
  exact ⟨hsecond.resolve_right not_straddles_allFrames, hmixed.resolve_left not_gives_mixedPacket⟩

/-- Parts of two calls are joined when the stream is bound anew between them. -/
theorem decodeAll_mixed :
    ¬ ∀ (count : Nat) (operations : List RackOperation) (delivered : List SentFrame),
      (EncoderRack.empty count).Orderly operations → delivered.Sublist ((EncoderRack.empty count).sent 0 operations) →
        ∀ packet ∈ (decodeAll 0 { timeout := 2000 } (delivered.map SentFrame.bytes)).2, packet.isValid = true →
          ∃ step, (EncoderRack.empty count).Gives operations step packet := by
  intro h
  have hgiven : (decodeAll 0 { timeout := 2000 } (reboundFrames.map SentFrame.bytes)).2 = [mixedPacket] := by
    decide +kernel
  obtain ⟨step, hgives⟩ := h 2 reboundRun reboundFrames orderly_reboundRun reboundFrames_sublist mixedPacket
    (by rw [hgiven]; exact List.mem_cons_self) (by decide)
  exact not_gives_mixedPacket hgives

end Decoder

end CaptureProtocol
